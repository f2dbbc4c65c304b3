import LinuxPBS.Common
import LinuxPBS.Library.CxxText

/-!
# The answers of the plate cameras on a byte stream

A camera sends `#LPRS_STX#id#plate#image#LPRS_ETX#` over TCP.  `Lpr::processData` takes what
one read returns for one answer: it counts the parts between the `#`, and makes an event of
them whose text the operation takes apart again.  What is only logged is left out.

```text
the read holds              parts     the event
one answer                  7         that answer, if the read is longer than 25 bytes
two answers                 13        none
less than an answer         below 7   none
more than an answer         above 7   none, or one that is not the first answer
```

An event takes at least six `#`, and an answer has six, so there is an event for every answer
only if every read is one (`eq_wires_of_length`).  The text of the event ends at the first line
feed of the image.  `received_iff` is the exact condition.
-/

namespace LinuxPBS.Lpr

open CxxText Common

/-! ## The code -/

/-- `CType` -/
inductive CType
  | frontCamera
  | rearCamera
  deriving DecidableEq, Repr

/-- The cast to `int`. -/
def CType.value : CType → ℤ
  | .frontCamera => 0
  | .rearCamera => 1

/-- `LPREventData` -/
structure LPREventData where
  camType : CType := .frontCamera
  LPN : List Char := []
  TransID : List Char := []
  imagePath : List Char := []
  deriving DecidableEq, Repr

/-- `serializeEventData` -/
def serializeEventData (eventData : LPREventData) : List Char :=
  (toString eventData.camType.value).toList ++ ',' :: (eventData.LPN ++ ',' ::
    (eventData.TransID ++ ',' :: eventData.imagePath))

/-- `std::getline`: the characters up to the delimiter and what is left behind it. -/
def getline (delim : Char) (rest : List Char) : Option (List Char × List Char) :=
  if rest = [] then none
  else some (rest.takeWhile (· ≠ delim), (rest.dropWhile (· ≠ delim)).tail)

/-- The camera types `deserializeEventData` accepts. -/
def cameraOfValue (cameraTypeValue : ℤ) : Option CType :=
  if cameraTypeValue = CType.frontCamera.value then some .frontCamera
  else if cameraTypeValue = CType.rearCamera.value then some .rearCamera
  else none

/-- The steps of `deserializeEventData`, of which each may throw. -/
def parseEventData (serializeData : List Char) : Option LPREventData := do
  let (token, rest) ← getline ',' serializeData
  let camType ← cameraOfValue (← stoi (String.ofList token))
  let (LPN, rest) ← getline ',' rest
  let (TransID, rest) ← getline ',' rest
  let (imagePath, _) ← getline '\n' rest
  return { camType, LPN, TransID, imagePath }

/-- `deserializeEventData` -/
def deserializeEventData (serializeData : List Char) : LPREventData :=
  (parseEventData serializeData).getD {}

/-- `LPRS_STX` -/
def stx : List Char := "LPRS_STX".toList

/-- `LPRS_ETX` -/
def etx : List Char := "LPRS_ETX".toList

/-- The text of the event `enqueueLprEvent` makes. -/
def enqueueLprEvent (cameraType : CType) (lpn transID imagePath : List Char) : List Char :=
  serializeEventData ⟨cameraType, lpn, transID, imagePath⟩

/-- `extractLPRData` -/
def extractLPRData (tcpData : List Char) (cameraType : CType) : Option (List Char) :=
  let parts := splitChars '#' tcpData
  let part (position : ℕ) := parts.getD position []
  if parts.length = 7 ∨ parts.length = 8 then
    some (enqueueLprEvent cameraType (part 3) (part 2) (part 4))
  else if parts.length = 12 then
    if part 7 ≠ stx then none
    else if part 11 ≠ etx then none
    else some (enqueueLprEvent cameraType (part 9) (part 8) (part 10))
  else none

/-- `processData`: the text of the event it raises. -/
def processData (tcpData : List Char) (cameraType : CType) : Option (List Char) :=
  if tcpData.length > 25 then
    let parts := splitChars '#' tcpData
    let part (position : ℕ) := parts.getD position []
    let normalLprFrame := (parts.length = 7 ∧ part 1 = stx ∧ part 5 = etx) ∨
      (parts.length = 8 ∧ part 1 = stx ∧ part 6 = etx)
    let cascadedLprFrame := parts.length = 12 ∧ part 7 = stx ∧ part 11 = etx
    if normalLprFrame ∨ cascadedLprFrame then extractLPRData tcpData cameraType else none
  else none

/-- `handleCameraReceive` -/
def handleCameraReceive (stopping success : Bool) (data : List Char) (cameraType : CType) :
    Option (List Char) :=
  if stopping then none else if success then processData data cameraType else none

/-! ## The answers -/

/-- An answer of a camera. -/
structure Answer where
  id : List Char
  plate : List Char
  image : List Char
  id_plain : '#' ∉ id ∧ ',' ∉ id
  plate_plain : '#' ∉ plate ∧ ',' ∉ plate
  image_plain : '#' ∉ image
  image_ne_nil : image ≠ []

namespace Answer

/-- The bytes of an answer. -/
def wire (answer : Answer) : List Char :=
  '#' :: (stx ++ '#' :: (answer.id ++ '#' :: (answer.plate ++ '#' ::
    (answer.image ++ '#' :: (etx ++ ['#'])))))

/-- What the operation is to get of an answer. -/
def eventData (answer : Answer) (cameraType : CType) : LPREventData :=
  ⟨cameraType, answer.plate, answer.id, answer.image⟩

end Answer

/-- The bytes of a sequence of answers. -/
def wires (answers : List Answer) : List Char := (answers.map Answer.wire).flatten

/-- What the operation gets of the reads of a camera. -/
def received (cameraType : CType) (chunks : List (List Char)) : List LPREventData :=
  (chunks.filterMap (handleCameraReceive false true · cameraType)).map deserializeEventData

/-! ## The text of an event -/

theorem getline_append {delim : Char} {front : List Char} (hfront : delim ∉ front)
    (rest : List Char) : getline delim (front ++ delim :: rest) = some (front, rest) := by
  have hall : ∀ c ∈ front, decide (c ≠ delim) = true := fun c hc =>
    decide_eq_true (ne_of_mem_of_not_mem hc hfront)
  unfold getline
  rw [if_neg (by simp), List.takeWhile_append_of_pos hall, List.dropWhile_append_of_pos hall]
  simp

theorem comma_notMem_value (camera : CType) : ',' ∉ (toString camera.value).toList := by
  cases camera <;> decide

theorem stoi_value (camera : CType) :
    stoi (String.ofList (toString camera.value).toList) = some camera.value := by
  have hfits : FitsInt camera.value := by cases camera <;> decide
  rw [String.ofList_toList, stoi_toString, if_pos hfits]

theorem cameraOfValue_value (camera : CType) : cameraOfValue camera.value = some camera := by
  cases camera <;> rfl

/-- The parts come back, the image up to its first line feed. -/
theorem deserialize_serialize {eventData : LPREventData} (hLPN : ',' ∉ eventData.LPN)
    (hTransID : ',' ∉ eventData.TransID) (himage : eventData.imagePath ≠ []) :
    deserializeEventData (serializeEventData eventData) =
      { eventData with imagePath := eventData.imagePath.takeWhile (· ≠ '\n') } := by
  have hlast : getline '\n' eventData.imagePath = some (eventData.imagePath.takeWhile (· ≠ '\n'),
      (eventData.imagePath.dropWhile (· ≠ '\n')).tail) := if_neg himage
  unfold deserializeEventData parseEventData serializeEventData
  simp only [getline_append (comma_notMem_value eventData.camType), getline_append hLPN,
    getline_append hTransID, hlast, stoi_value, cameraOfValue_value, Option.bind_eq_bind,
    Option.bind_some, Option.pure_def, Option.getD_some]

/-! ## One read -/

theorem length_splitChars (separator : Char) (text : List Char) :
    (splitChars separator text).length = text.count separator + 1 := by
  induction text with
  | nil => rfl
  | cons c text ih =>
      obtain ⟨first, rest, hsplit⟩ := splitChars_cons separator text
      unfold splitChars
      by_cases hc : c = separator
      · rw [if_pos hc, List.length_cons, ih, hc, List.count_cons_self]
      · rw [if_neg hc, List.count_cons_of_ne hc, ← ih, hsplit]
        rfl

/-- An event takes the separators of an answer. -/
theorem six_le_count {chunk event : List Char} {camera : CType}
    (hevent : processData chunk camera = some event) : 6 ≤ chunk.count '#' := by
  have hparts := length_splitChars '#' chunk
  by_contra hfew
  have h7 : (splitChars '#' chunk).length ≠ 7 := by omega
  have h8 : (splitChars '#' chunk).length ≠ 8 := by omega
  have h12 : (splitChars '#' chunk).length ≠ 12 := by omega
  simp [processData, h7, h8, h12] at hevent

namespace Answer

theorem splitChars_wire (answer : Answer) : splitChars '#' answer.wire =
    [[], stx, answer.id, answer.plate, answer.image, etx, []] := by
  have hstx : '#' ∉ stx := by decide
  have hetx : '#' ∉ etx := by decide
  have hfirst := splitChars_append '#' [] (stx ++ '#' :: (answer.id ++ '#' :: (answer.plate ++
    '#' :: (answer.image ++ '#' :: (etx ++ ['#'])))))
  rw [wire]
  rw [List.nil_append] at hfirst
  simp only [hfirst, splitChars_append, splitChars_of_notMem hstx, splitChars_of_notMem hetx,
    splitChars_of_notMem answer.id_plain.1, splitChars_of_notMem answer.plate_plain.1,
    splitChars_of_notMem answer.image_plain]
  rfl

theorem count_wire (answer : Answer) : answer.wire.count '#' = 6 := by
  have hparts := length_splitChars '#' answer.wire
  rw [splitChars_wire] at hparts
  exact (Nat.succ.inj hparts).symm

theorem processData_wire (answer : Answer) (camera : CType) :
    processData answer.wire camera = if 25 < answer.wire.length then
      some (serializeEventData (answer.eventData camera)) else none := by
  unfold processData extractLPRData
  simp only [splitChars_wire]
  rfl

/-- The operation gets an answer that is one read. -/
theorem received_wire_iff (answer : Answer) (camera : CType) :
    (processData answer.wire camera).map deserializeEventData =
        some (answer.eventData camera) ↔
      25 < answer.wire.length ∧ '\n' ∉ answer.image := by
  rw [processData_wire]
  by_cases hlong : 25 < answer.wire.length
  · have himage : (answer.image.takeWhile (· ≠ '\n') = answer.image) ↔ '\n' ∉ answer.image := by
      rw [List.takeWhile_eq_self_iff]
      constructor
      · intro hall hmem
        exact of_decide_eq_true (hall _ hmem) rfl
      · intro hnone c hc
        exact decide_eq_true (ne_of_mem_of_not_mem hc hnone)
    rw [if_pos hlong, Option.map_some, deserialize_serialize answer.plate_plain.2 answer.id_plain.2
      answer.image_ne_nil, Option.some_inj, and_iff_right hlong, ← himage]
    simp [eventData]
  · rw [if_neg hlong]
    exact iff_of_false nofun fun hmeets => hlong hmeets.1

end Answer

/-! ## Sequences of reads -/

/-- The texts of the events that reads raise. -/
def events (cameraType : CType) (chunks : List (List Char)) : List (List Char) :=
  chunks.filterMap (processData · cameraType)

variable {camera : CType} {chunks : List (List Char)}

theorem events_cons_none {chunk : List Char} {rest : List (List Char)}
    (hnone : processData chunk camera = none) :
    events camera (chunk :: rest) = events camera rest := List.filterMap_cons_none hnone

theorem events_cons_some {chunk event : List Char} {rest : List (List Char)}
    (hsome : processData chunk camera = some event) :
    events camera (chunk :: rest) = event :: events camera rest := List.filterMap_cons_some hsome

theorem six_mul_length_events_le (chunks : List (List Char)) :
    6 * (events camera chunks).length ≤ chunks.flatten.count '#' := by
  induction chunks with
  | nil => exact Nat.le_refl 0
  | cons chunk rest ih =>
      rw [List.flatten_cons, List.count_append]
      cases hevent : processData chunk camera with
      | none =>
          rw [events_cons_none hevent]
          omega
      | some event =>
          have hsix := six_le_count hevent
          rw [events_cons_some hevent, List.length_cons]
          omega

theorem count_wires (answers : List Answer) :
    (wires answers).count '#' = 6 * answers.length := by
  induction answers with
  | nil => rfl
  | cons answer rest ih =>
      unfold wires at ih ⊢
      rw [List.map_cons, List.flatten_cons, List.count_append, ih, answer.count_wire,
        List.length_cons]
      omega

/-- The bytes of answers begin with a separator. -/
theorem head_wires {answers : List Answer} {text rest : List Char}
    (hwires : wires answers = text ++ rest) (htext : text ≠ []) : '#' ∈ text := by
  cases answers with
  | nil => exact absurd (List.append_eq_nil_iff.mp hwires.symm).1 htext
  | cons answer others =>
      cases text with
      | nil => exact absurd rfl htext
      | cons c text =>
          obtain ⟨rfl, -⟩ := List.cons_eq_cons.mp hwires
          exact List.mem_cons_self

/-- The bytes of an answer end with a separator. -/
theorem Answer.last_wire {answer : Answer} {text rest : List Char}
    (hwire : answer.wire = text ++ rest) (hrest : rest ≠ []) : '#' ∈ rest := by
  have hfront : answer.wire = ('#' :: (stx ++ '#' :: (answer.id ++ '#' :: (answer.plate ++
      '#' :: (answer.image ++ '#' :: etx))))) ++ ['#'] := by
    simp only [Answer.wire, List.append_assoc, List.cons_append]
  obtain ⟨front, last, rfl⟩ := List.eq_nil_or_concat' rest |>.resolve_left hrest
  rw [hfront, ← List.append_assoc] at hwire
  obtain ⟨-, hlast⟩ := List.append_inj' hwire rfl
  obtain rfl : '#' = last := List.singleton_inj.mp hlast
  exact List.mem_append_right _ (List.mem_singleton_self _)

/-- A beginning of the bytes with the separators of one answer is the first answer. -/
theorem eq_wire_of_count {answer : Answer} {others : List Answer} {chunk left : List Char}
    (hbytes : chunk ++ left = answer.wire ++ wires others) (hcount : chunk.count '#' = 6) :
    chunk = answer.wire ∧ left = wires others := by
  obtain ⟨more, hchunk, hwires⟩ | ⟨more, hwire, hleft⟩ := List.append_eq_append_iff.mp hbytes
  · -- nothing of the answer is left, since it ends with a separator
    have htotal := answer.count_wire
    rw [hchunk, List.count_append] at htotal
    have hnone : '#' ∉ more := List.count_eq_zero.mp (by omega)
    obtain rfl : more = [] := by_contra fun hmore => hnone (answer.last_wire hchunk hmore)
    exact ⟨by rw [hchunk, List.append_nil], hwires⟩
  · -- and nothing of the next one is there, since it begins with one
    rw [hwire, List.count_append, answer.count_wire] at hcount
    have hnone : '#' ∉ more := List.count_eq_zero.mp (by omega)
    obtain rfl : more = [] := by_contra fun hmore => hnone (head_wires hleft hmore)
    exact ⟨by rw [hwire, List.append_nil], hleft.symm⟩

/-- As many events as answers: every read is one answer. -/
theorem eq_wires_of_length {answers : List Answer} (hbytes : chunks.flatten = wires answers)
    (hlength : answers.length ≤ (events camera chunks).length) :
    chunks.filter (· ≠ []) = answers.map Answer.wire := by
  induction chunks generalizing answers with
  | nil =>
      obtain rfl : answers = [] := List.length_eq_zero_iff.mp (Nat.le_zero.mp hlength)
      rfl
  | cons chunk rest ih =>
      rw [List.flatten_cons] at hbytes
      by_cases hempty : chunk = []
      · subst hempty
        exact ih hbytes hlength
      · have hhead := List.count_pos_iff.mpr (head_wires hbytes.symm hempty)
        have htotal := congrArg (List.count '#') hbytes
        rw [List.count_append, count_wires] at htotal
        have hrest : 6 * (events camera rest).length ≤ rest.flatten.count '#' :=
          six_mul_length_events_le rest
        cases hevent : processData chunk camera with
        | none =>
            -- the other reads would have to bring all events with fewer separators
            rw [events_cons_none hevent] at hlength
            omega
        | some event =>
            have hsix := six_le_count hevent
            rw [events_cons_some hevent, List.length_cons] at hlength
            cases answers with
            | nil =>
                rw [List.length_nil] at htotal
                omega
            | cons answer others =>
                rw [List.length_cons] at hlength htotal
                obtain ⟨rfl, hothers⟩ := eq_wire_of_count hbytes (by omega)
                rw [List.filter_cons_of_pos (by simpa using hempty),
                  ih hothers (Nat.le_of_succ_le_succ hlength), List.map_cons]

/-! ## The condition -/

/-- A partial map is a total one exactly if it gives its values throughout. -/
theorem filterMap_eq_map_iff {α β : Type} {partialMap : α → Option β} {totalMap : α → β}
    {values : List α} : values.filterMap partialMap = values.map totalMap ↔
      ∀ value ∈ values, partialMap value = some (totalMap value) := by
  induction values with
  | nil => exact iff_of_true rfl fun value hvalue => by cases hvalue
  | cons first rest ih =>
      rw [List.forall_mem_cons, List.map_cons, ← ih]
      cases hfirst : partialMap first with
      | none =>
          -- what is left out is missing at the end
          have hshort := List.length_filterMap_le partialMap rest
          rw [List.filterMap_cons_none hfirst]
          refine iff_of_false (fun hequal => ?_) fun hboth => by cases hboth.1
          have hlength := congrArg List.length hequal
          rw [List.length_cons, List.length_map] at hlength
          omega
      | some value => rw [List.filterMap_cons_some hfirst, List.cons.injEq, Option.some_inj]

theorem received_eq (camera : CType) (chunks : List (List Char)) :
    received camera chunks = (events camera chunks).map deserializeEventData := rfl

/-- Reads without bytes raise no event. -/
theorem events_filter (camera : CType) (chunks : List (List Char)) :
    events camera (chunks.filter (· ≠ [])) = events camera chunks := by
  induction chunks with
  | nil => rfl
  | cons chunk rest ih =>
      cases chunk with
      | nil => exact ih
      | cons c text =>
          rw [List.filter_cons_of_pos (by simp)]
          cases hevent : processData (c :: text) camera with
          | none => rw [events_cons_none hevent, events_cons_none hevent, ih]
          | some event => rw [events_cons_some hevent, events_cons_some hevent, ih]

/-- Where every read is one answer, each answer counts for itself. -/
theorem received_wires_iff (camera : CType) (answers : List Answer) :
    received camera (answers.map Answer.wire) = answers.map (·.eventData camera) ↔
      ∀ answer ∈ answers, 25 < answer.wire.length ∧ '\n' ∉ answer.image := by
  have hreceived : received camera (answers.map Answer.wire) = answers.filterMap fun answer =>
      (processData answer.wire camera).map deserializeEventData := by
    rw [received_eq, events, List.filterMap_map, List.map_filterMap]
    rfl
  rw [hreceived, filterMap_eq_map_iff]
  exact forall₂_congr fun answer _ => answer.received_wire_iff camera

/-- The operation gets exactly the answers sent, in order, if and only if every read is one of
them, it is longer than 25 bytes, and its image holds no line feed. -/
theorem received_iff (camera : CType) (answers : List Answer) (chunks : List (List Char))
    (hflatten : chunks.flatten = wires answers) :
    received camera chunks = answers.map (·.eventData camera) ↔
      chunks.filter (· ≠ []) = answers.map Answer.wire ∧
        ∀ answer ∈ answers, 25 < answer.wire.length ∧ '\n' ∉ answer.image := by
  rw [← received_wires_iff camera answers]
  have hfiltered : received camera (chunks.filter (· ≠ [])) = received camera chunks := by
    rw [received_eq, events_filter, received_eq]
  constructor
  · intro hreceived
    have hlength := congrArg List.length hreceived
    rw [received_eq, List.length_map, List.length_map] at hlength
    have hchunks := eq_wires_of_length hflatten hlength.ge
    exact ⟨hchunks, by rw [← hchunks, hfiltered, hreceived]⟩
  · intro hmeets
    rw [← hfiltered, hmeets.1, hmeets.2]

def firstAnswer : Answer where
  id := "1".toList
  plate := "SBA1234A".toList
  image := "a,1.jpg".toList
  id_plain := by decide
  plate_plain := by decide
  image_plain := by decide
  image_ne_nil := by decide

def secondAnswer : Answer where
  id := "2".toList
  plate := "SGX99B".toList
  image := "b.jpg".toList
  id_plain := by decide
  plate_plain := by decide
  image_plain := by decide
  image_ne_nil := by decide

theorem received_iff_two_reads :
    received .rearCamera [firstAnswer.wire, [], secondAnswer.wire] =
        [firstAnswer, secondAnswer].map (·.eventData .rearCamera) ↔
      [firstAnswer.wire, [], secondAnswer.wire].filter (· ≠ []) =
          [firstAnswer, secondAnswer].map Answer.wire ∧
        ∀ answer ∈ [firstAnswer, secondAnswer],
          25 < answer.wire.length ∧ '\n' ∉ answer.image :=
  received_iff .rearCamera [firstAnswer, secondAnswer]
    [firstAnswer.wire, [], secondAnswer.wire] (by decide +kernel)

/-- Two answers that one read returns together raise no event. -/
theorem not_received :
    ¬∀ (camera : CType) (answers : List Answer) (chunks : List (List Char)),
      chunks.flatten = wires answers →
        received camera chunks = answers.map (·.eventData camera) := by
  intro hall
  have hmerged := hall .frontCamera [firstAnswer, secondAnswer]
    [firstAnswer.wire ++ secondAnswer.wire] (by decide +kernel)
  exact absurd hmerged (by decide +kernel)

end LinuxPBS.Lpr
