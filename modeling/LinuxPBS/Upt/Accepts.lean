import LinuxPBS.Upt.RoundTrip

/-!
# The messages the parser accepts

`FnParseMsgData` takes whatever the receiver cut out of the stream.  `WellFormedBytes`
is the grammar of a message on its decoded bytes: a header of 64 bytes whose length
and checksum are true, then fields that each state their own length.
`fnParseMsgData_accepts` says that the parser accepts exactly this, that it copies
nothing from behind the end, and that what it made of the bytes serialises to them.

The sizes the parser compares are 32 bits wide, which is where 2 ^ 32 decoded bytes
and more leave the grammar (`not_fnParseMsgData_accepts`).
-/

namespace LinuxPBS.Upt

open LinuxPBS.Bytes LinuxPBS.Common

/-! ## The grammar -/

/-- The length a field states in its first word. -/
def statedLength (field : List UInt8) : ℕ := (convertToUint32 (field.take 4)).toNat

/-- The bytes are one field behind the other. -/
def Splits (bytes : List UInt8) : Prop :=
  ∃ fields : List (List UInt8), bytes = fields.flatten ∧
    ∀ field ∈ fields, 8 ≤ field.length ∧ statedLength field = field.length

/-- The checksum over all of the bytes. -/
def crc32All (data : List UInt8) : UInt32 := data.foldl crc32Step 0xFFFFFFFF ^^^ 0xFFFFFFFF

/-- A message as it should be on its decoded bytes. -/
structure WellFormedBytes (bytes : List UInt8) : Prop where
  size : 64 ≤ bytes.length
  length : statedLength bytes = bytes.length
  crc : crc32All (bytes.drop 8) = convertToUint32 ((bytes.drop 4).take 4)
  splits : Splits (bytes.drop 64)

/-! ## What the parser copies -/

/-- Offset and length of the copies made for the header once the checksum is right. -/
def headerRanges : List (ℕ × ℕ) :=
  [(8, 1), (9, 1), (10, 8), (18, 4), (22, 2), (24, 4), (28, 4), (32, 1), (33, 1), (34, 4), (38, 2),
    (40, 2), (42, 4), (46, 1), (47, 1), (48, 16)]

/-- Offset and length of the copies made by the loop over the payload fields. -/
def payloadRanges (payload : List UInt8) (length payloadStartIndex : ℕ) : List (ℕ × ℕ) :=
  if payloadStartIndex < length then
    let remaining := length - payloadStartIndex
    if remaining < 8 then []
    else
      let payloadFieldLength := convertToUint32 (extractSubVector payload payloadStartIndex 4)
      if payloadFieldLength.toNat < 8 then [(payloadStartIndex, 4)]
      else if payloadFieldLength.toNat > remaining then [(payloadStartIndex, 4)]
      else
        (payloadStartIndex, 4) :: (payloadStartIndex, payloadFieldLength.toNat) ::
          payloadRanges payload length (payloadStartIndex + payloadFieldLength.toNat)
  else []
termination_by length - payloadStartIndex
decreasing_by
  simp +zetaDelta only [not_lt] at *
  omega

/-- Offset and length of everything `FnParseMsgData` copies from the decoded bytes. -/
def copiedRanges (msgData : List UInt8) : List (ℕ × ℕ) :=
  match fnRemoveDataTransparency msgData with
  | (.success, payload) =>
      let size := UInt32.ofNat payload.length
      if isValidHeaderSize size then
        let length := convertToUint32 (extractSubVector payload 0 4)
        if length = size then
          let calculatedCRC32 := crc32 (payload.drop 8) (UInt32.ofNat (payload.drop 8).length)
          if calculatedCRC32 = convertToUint32 (extractSubVector payload 4 4) then
            [(0, 4), (8, payload.length - 8), (4, 4)] ++ headerRanges ++
              payloadRanges payload length.toNat payloadOffset
          else [(0, 4), (8, payload.length - 8), (4, 4)]
        else [(0, 4)]
      else []
  | _ => []

theorem payloadRanges_inside (payload : List UInt8) (length payloadStartIndex : ℕ)
    (hlength : length ≤ payload.length) :
    ∀ range ∈ payloadRanges payload length payloadStartIndex,
      range.1 + range.2 ≤ payload.length := by
  fun_induction payloadRanges payload length payloadStartIndex with
  | case1 start hstart remaining hremaining => intro range hrange; cases hrange
  | case2 start hstart remaining hremaining fieldLength hshort =>
      intro range hrange
      rw [List.mem_singleton] at hrange
      subst hrange
      dsimp only [remaining] at hremaining ⊢
      omega
  | case3 start hstart remaining hremaining fieldLength hshort hlong =>
      intro range hrange
      rw [List.mem_singleton] at hrange
      subst hrange
      dsimp only [remaining] at hremaining ⊢
      omega
  | case4 start hstart remaining hremaining fieldLength hshort hlong ih =>
      intro range hrange
      dsimp only [remaining] at hremaining hlong
      rcases List.mem_cons.mp hrange with rfl | hrange
      · dsimp only
        omega
      · rcases List.mem_cons.mp hrange with rfl | hrange
        · dsimp only
          omega
        · exact ih range hrange
  | case5 start hstart => intro range hrange; cases hrange

theorem toNat_ofNat_of_lt {size : ℕ} (hsize : size < 2 ^ 32) :
    (UInt32.ofNat size).toNat = size := by
  rw [UInt32.toNat_ofNat', Nat.mod_eq_of_lt hsize]

theorem crc32_all {data : List UInt8} (hsize : data.length < 2 ^ 32) :
    crc32 data (UInt32.ofNat data.length) = crc32All data := by
  rw [crc32, toNat_ofNat_of_lt hsize, List.take_length, crc32All]

/-- A range that starts inside the size the parser compares with is inside the bytes. -/
theorem size_le (bytes : List UInt8) : (UInt32.ofNat bytes.length).toNat ≤ bytes.length := by
  rw [UInt32.toNat_ofNat']
  exact Nat.mod_le _ _

theorem isValidHeaderSize_iff (size : UInt32) :
    isValidHeaderSize size = true ↔ 64 ≤ size.toNat := by
  have hmax : size ≤ 4294967295 := UInt32.le_iff_toNat_le.mpr (Nat.le_of_lt_succ size.toNat_lt)
  simp only [isValidHeaderSize, ge_iff_le, hmax, decide_true, Bool.and_true, decide_eq_true_eq]
  exact UInt32.le_iff_toNat_le

theorem headerRanges_inside : ∀ range ∈ headerRanges, range.1 + range.2 ≤ 64 := by decide

theorem copiedRanges_inside (msgData : List UInt8) :
    ∀ range ∈ copiedRanges msgData,
      range.1 + range.2 ≤ (fnRemoveDataTransparency msgData).2.length := by
  unfold copiedRanges
  split
  · next payload hremove =>
    rw [hremove]
    dsimp only
    split_ifs with hvalid hlength hcrc
    · have hsize := (isValidHeaderSize_iff _).mp hvalid
      have hle := size_le payload
      intro range hrange
      rcases List.mem_append.mp hrange with hrange | hrange
      · rcases List.mem_append.mp hrange with hrange | hrange
        · simp only [List.mem_cons, List.not_mem_nil, or_false] at hrange
          rcases hrange with rfl | rfl | rfl <;> dsimp only <;> omega
        · have hheader := headerRanges_inside range hrange
          omega
      · exact payloadRanges_inside payload _ payloadOffset (by rw [hlength]; exact hle) range hrange
    · have hsize := (isValidHeaderSize_iff _).mp hvalid
      have hle := size_le payload
      intro range hrange
      simp only [List.mem_cons, List.not_mem_nil, or_false] at hrange
      rcases hrange with rfl | rfl | rfl <;> dsimp only <;> omega
    · have hsize := (isValidHeaderSize_iff _).mp hvalid
      have hle := size_le payload
      intro range hrange
      rw [List.mem_singleton] at hrange
      subst hrange
      dsimp only
      omega
    · intro range hrange
      cases hrange
  · intro range hrange
    cases hrange

/-! ## The fields -/

theorem take_drop_append_drop (bytes : List UInt8) (offset n : ℕ) :
    (bytes.drop offset).take n ++ bytes.drop (offset + n) = bytes.drop offset := by
  rw [← List.drop_drop, List.take_append_drop]

/-- The field made of the bytes of one field serialises to these bytes. -/
theorem toByteArray_parseField {length : UInt32} {data : List UInt8} (height : 8 ≤ data.length)
    (hword : convertToUint32 (data.take 4) = length) (hlength : length.toNat = data.length) :
    (parseField length data).toByteArray = data := by
  have hle : (8 : UInt32) ≤ length := by
    rw [UInt32.le_iff_toNat_le, hlength]
    exact height
  have hrest : (length - 8).toNat = (data.drop 8).length := by
    rw [UInt32.toNat_sub_of_le _ _ hle, hlength, List.length_drop]
    rfl
  have hfield : parseField length data =
      { payloadFieldLength := length
        payloadFieldId := convertToUint16 ((data.drop 4).take 2)
        fieldReserve := convertToUint8 ((data.drop 6).take 1)
        fieldEncoding := convertToUint8 ((data.drop 7).take 1)
        fieldData := data.drop 8 } := by
    simp only [parseField, extractSubVector_eq, hrest, List.take_length]
    unfold PayloadField.setFieldData
    rw [if_neg (UInt32.not_lt.mpr hle), if_pos hrest.symm]
  have hfour : (data.take 4).length = 4 := by rw [List.length_take]; omega
  have hid : ((data.drop 4).take 2).length = 2 := by rw [List.length_take, List.length_drop]; omega
  have hreserve : ((data.drop 6).take 1).length = 1 := by
    rw [List.length_take, List.length_drop]
    omega
  have hencoding : ((data.drop 7).take 1).length = 1 := by
    rw [List.length_take, List.length_drop]
    omega
  rw [hfield]
  unfold PayloadField.toByteArray
  dsimp only
  rw [← hword, leBytes_convertToUint32 hfour, leBytes_convertToUint16 hid,
    leBytes_convertToUint8 hreserve, leBytes_convertToUint8 hencoding, take_drop_append_drop,
    take_drop_append_drop, take_drop_append_drop, List.take_append_drop]

theorem Splits.nil : Splits [] := ⟨[], rfl, fun _ hfield => absurd hfield List.not_mem_nil⟩

theorem Splits.cons {field rest : List UInt8} (height : 8 ≤ field.length)
    (hstated : statedLength field = field.length) (hrest : Splits rest) :
    Splits (field ++ rest) := by
  obtain ⟨fields, rfl, hfields⟩ := hrest
  refine ⟨field :: fields, List.flatten_cons.symm, ?_⟩
  intro other hother
  rcases List.mem_cons.mp hother with rfl | hother
  · exact ⟨height, hstated⟩
  · exact hfields other hother

/-- The length word of a field is that of the bytes that start with it. -/
theorem statedLength_append {field : List UInt8} (height : 8 ≤ field.length) (rest : List UInt8) :
    statedLength (field ++ rest) = statedLength field := by
  rw [statedLength, statedLength, List.take_append_of_le_length (by omega)]

/-- The loop goes through fields that state their lengths; `before` is what it has behind it. -/
theorem parsePayloads_flatten {fields : List (List UInt8)}
    (hfields : ∀ field ∈ fields, 8 ≤ field.length ∧ statedLength field = field.length)
    (before : List UInt8) (payloads : List PayloadField) {length : ℕ}
    (hlength : length = before.length + fields.flatten.length) :
    (parsePayloads (before ++ fields.flatten) length before.length payloads).1 = .success := by
  induction fields generalizing before payloads with
  | nil => rw [parsePayloads, if_neg (by simpa using hlength.le)]
  | cons field rest ih =>
      obtain ⟨height, hstated⟩ := hfields field List.mem_cons_self
      rw [List.flatten_cons, List.length_append] at hlength
      have hword : (convertToUint32 (extractSubVector (before ++ (field ++ rest.flatten))
          before.length 4)).toNat = field.length := by
        rw [extractSubVector_eq, List.drop_left' rfl, ← hstated]
        exact statedLength_append height rest.flatten
      have hnext : before.length + field.length = (before ++ field).length :=
        List.length_append.symm
      rw [List.flatten_cons, parsePayloads, if_pos (by omega)]
      dsimp only
      rw [if_neg (by omega), hword, if_neg (by omega), if_neg (by omega), hnext,
        ← List.append_assoc]
      exact ih (fun other hother => hfields other (List.mem_cons_of_mem field hother)) _ _
        (by rw [List.length_append]; omega)

theorem parsePayloads_of_splits {payload : List UInt8} {start : ℕ} (hstart : start ≤ payload.length)
    (hsplits : Splits (payload.drop start)) :
    (parsePayloads payload payload.length start []).1 = .success := by
  obtain ⟨fields, hbytes, hfields⟩ := hsplits
  have hbefore : (payload.take start).length = start := by rw [List.length_take]; omega
  have hlength : payload.length = (payload.take start).length + fields.flatten.length := by
    rw [hbefore, ← hbytes, List.length_drop]
    omega
  have hrun := parsePayloads_flatten hfields (payload.take start) [] hlength
  rwa [← hbytes, List.take_append_drop, hbefore] at hrun

/-- Where the loop succeeds, the rest of the bytes were fields, and it has added these. -/
theorem splits_of_parsePayloads (payload : List UInt8) (start : ℕ) (payloads : List PayloadField)
    (hstart : start ≤ payload.length)
    (hsuccess : (parsePayloads payload payload.length start payloads).1 = .success) :
    Splits (payload.drop start) ∧
      (parsePayloads payload payload.length start payloads).2.flatMap PayloadField.toByteArray =
        payloads.flatMap PayloadField.toByteArray ++ payload.drop start := by
  fun_induction parsePayloads payload payload.length start payloads with
  | case1 => cases hsuccess
  | case2 => cases hsuccess
  | case3 => cases hsuccess
  | case4 start payloads hlt remaining hremaining length hshort hlong data ih =>
      dsimp only [remaining] at hlong
      have hdata : data.length = length.toNat := by
        dsimp only [data]
        rw [List.length_take, List.length_drop]
        omega
      have hfour : 4 ≤ length.toNat := by omega
      have hword : convertToUint32 (data.take 4) = length := by
        rw [List.take_take, min_eq_left hfour, ← extractSubVector_eq]
      obtain ⟨hsplits, hbytes⟩ := ih (by omega) hsuccess
      have hcut : data ++ payload.drop (start + length.toNat) = payload.drop start :=
        take_drop_append_drop payload start length.toNat
      constructor
      · rw [← hcut]
        exact hsplits.cons (by omega) (by rw [statedLength, hword, hdata])
      · rw [hbytes, List.flatMap_append, List.flatMap_singleton,
          toByteArray_parseField (by omega) hword hdata.symm, List.append_assoc, hcut]
  | case5 start payloads hend =>
      have hdrop : payload.drop start = [] := List.drop_eq_nil_of_le (by omega)
      rw [hdrop, List.append_nil]
      exact ⟨Splits.nil, rfl⟩

/-! ## The header -/

theorem take_sixtyFour (payload : List UInt8) :
    payload.take 64 = payload.take 4 ++ ((payload.drop 4).take 4 ++ ((payload.drop 8).take 1 ++
      ((payload.drop 9).take 1 ++ ((payload.drop 10).take 8 ++ ((payload.drop 18).take 4 ++
      ((payload.drop 22).take 2 ++ ((payload.drop 24).take 4 ++ ((payload.drop 28).take 4 ++
      ((payload.drop 32).take 1 ++ ((payload.drop 33).take 1 ++ ((payload.drop 34).take 4 ++
      ((payload.drop 38).take 2 ++ ((payload.drop 40).take 2 ++ ((payload.drop 42).take 4 ++
      ((payload.drop 46).take 1 ++ ((payload.drop 47).take 1 ++
      (payload.drop 48).take 16)))))))))))))))) := by
  have hnext : ∀ offset n rest : ℕ, (payload.drop offset).take (n + rest) =
      (payload.drop offset).take n ++ (payload.drop (offset + n)).take rest := by
    intro offset n rest
    rw [List.take_add, List.drop_drop]
  have hfirst : payload.take 64 = payload.take 4 ++ (payload.drop 4).take 60 := by
    rw [show 64 = 4 + 60 from rfl, List.take_add]
  rw [hfirst, hnext 4 4 56, hnext 8 1 55, hnext 9 1 54, hnext 10 8 46, hnext 18 4 42,
    hnext 22 2 40, hnext 24 4 36, hnext 28 4 32, hnext 32 1 31, hnext 33 1 30, hnext 34 4 26,
    hnext 38 2 24, hnext 40 2 22, hnext 42 4 18, hnext 46 1 17, hnext 47 1 16]

theorem toByteArray_parseHeader {payload : List UInt8} (hsize : 64 ≤ payload.length) :
    (parseHeader payload).toByteArray = payload.take 64 := by
  have hpiece : ∀ offset n : ℕ, offset + n ≤ 64 → ((payload.drop offset).take n).length = n := by
    intro offset n hinside
    rw [List.length_take, List.length_drop]
    omega
  have hmac : ((payload.drop 48).take 16).length = encryptionMACSize := hpiece 48 16 (by decide)
  unfold parseHeader MessageHeader.setEncryptionMAC
  simp only [extractSubVector_eq]
  rw [if_pos hmac]
  unfold MessageHeader.toByteArray
  dsimp only
  rw [leBytes_convertToUint32 (hpiece 0 4 (by decide)),
    leBytes_convertToUint32 (hpiece 4 4 (by decide)),
    leBytes_convertToUint8 (hpiece 8 1 (by decide)),
    leBytes_convertToUint8 (hpiece 9 1 (by decide)),
    leBytes_convertToUint64 (hpiece 10 8 (by decide)),
    leBytes_convertToUint32 (hpiece 18 4 (by decide)),
    leBytes_convertToUint16 (hpiece 22 2 (by decide)),
    leBytes_convertToUint32 (hpiece 24 4 (by decide)),
    leBytes_convertToUint32 (hpiece 28 4 (by decide)),
    leBytes_convertToUint8 (hpiece 32 1 (by decide)),
    leBytes_convertToUint8 (hpiece 33 1 (by decide)),
    leBytes_convertToUint32 (hpiece 34 4 (by decide)),
    leBytes_convertToUint16 (hpiece 38 2 (by decide)),
    leBytes_convertToUint16 (hpiece 40 2 (by decide)),
    leBytes_convertToUint32 (hpiece 42 4 (by decide)),
    leBytes_convertToUint8 (hpiece 46 1 (by decide)),
    leBytes_convertToUint8 (hpiece 47 1 (by decide)), List.drop_zero, take_sixtyFour]

/-! ## What is accepted -/

theorem parsed_accepted {payload : List UInt8} (hsize : 64 ≤ payload.length)
    (hsuccess : (parsePayloads payload payload.length payloadOffset []).1 = .success) :
    Splits (payload.drop 64) ∧
      Message.completeMsg
        { header := parseHeader payload
          payloads := (parsePayloads payload payload.length payloadOffset []).2 } = payload := by
  obtain ⟨hsplits, hfields⟩ := splits_of_parsePayloads payload payloadOffset [] hsize hsuccess
  refine ⟨hsplits, ?_⟩
  rw [List.flatMap_nil, List.nil_append] at hfields
  unfold Message.completeMsg Message.getHeaderMsgVector Message.getPayloadMsgVector
  dsimp only
  rw [hfields, toByteArray_parseHeader hsize]
  exact List.take_append_drop 64 payload

/-- Below 2 ^ 32 decoded bytes the checks of the parser are those of the grammar. -/
theorem fnParseMsgData_of_decoded {msgData payload : List UInt8}
    (hremove : fnRemoveDataTransparency msgData = (.success, payload))
    (hbound : payload.length < 2 ^ 32) :
    fnParseMsgData msgData =
      if 64 ≤ payload.length then
        if statedLength payload = payload.length then
          if crc32All (payload.drop 8) = convertToUint32 ((payload.drop 4).take 4) then
            ((parsePayloads payload payload.length payloadOffset []).1,
              { header := parseHeader payload
                payloads := (parsePayloads payload payload.length payloadOffset []).2 })
          else (.msgIntegrityFailed, { header := MessageHeader.cleared })
        else (.msgLengthMismatch, { header := MessageHeader.cleared })
      else (.msgLengthMinimum, { header := MessageHeader.cleared }) := by
  have hsize := toNat_ofNat_of_lt hbound
  have hcrc : crc32 (payload.drop 8) (UInt32.ofNat (payload.drop 8).length) =
      crc32All (payload.drop 8) :=
    crc32_all (lt_of_le_of_lt (by rw [List.length_drop]; exact Nat.sub_le _ _) hbound)
  have hlength : convertToUint32 (extractSubVector payload 0 4) = UInt32.ofNat payload.length ↔
      statedLength payload = payload.length := by
    rw [← UInt32.toNat_inj, hsize, extractSubVector_eq]
    rfl
  unfold fnParseMsgData
  rw [hremove]
  dsimp only
  rw [hcrc, extractSubVector_eq payload 4 4]
  by_cases hvalid : 64 ≤ payload.length
  · have hheader : isValidHeaderSize (UInt32.ofNat payload.length) = true :=
      (isValidHeaderSize_iff _).mpr (hsize.symm ▸ hvalid)
    rw [if_pos hheader, if_pos hvalid]
    by_cases hstated : statedLength payload = payload.length
    · rw [if_pos (hlength.mpr hstated), if_pos hstated, hlength.mpr hstated, hsize]
    · rw [if_neg (mt hlength.mp hstated), if_neg hstated]
  · have hheader : ¬isValidHeaderSize (UInt32.ofNat payload.length) = true := by
      rw [isValidHeaderSize_iff, hsize]
      exact hvalid
    have hshort : UInt32.ofNat payload.length < 64 := by
      rw [UInt32.lt_iff_toNat_lt, hsize]
      exact Nat.lt_of_not_le hvalid
    rw [if_neg hheader, if_pos hshort, if_neg hvalid]

/-- The parser copies from inside the decoded bytes only.  Below 2 ^ 32 of them it accepts
exactly the grammar, and what it has accepted serialises to the decoded bytes. -/
theorem fnParseMsgData_accepts (msgData : List UInt8) :
    (∀ range ∈ copiedRanges msgData,
      range.1 + range.2 ≤ (fnRemoveDataTransparency msgData).2.length) ∧
    ((fnRemoveDataTransparency msgData).2.length < 2 ^ 32 →
      ((fnParseMsgData msgData).1 = .success ↔
        (fnRemoveDataTransparency msgData).1 = .success ∧
          WellFormedBytes (fnRemoveDataTransparency msgData).2) ∧
      ((fnParseMsgData msgData).1 = .success →
        (fnParseMsgData msgData).2.completeMsg = (fnRemoveDataTransparency msgData).2)) := by
  refine ⟨copiedRanges_inside msgData, ?_⟩
  intro hbound
  rcases hremove : fnRemoveDataTransparency msgData with ⟨status, payload⟩
  rw [hremove] at hbound
  dsimp only at hbound ⊢
  by_cases hstatus : status = .success
  · subst hstatus
    rw [fnParseMsgData_of_decoded hremove hbound]
    split_ifs with hsize hlength hcrc
    · have haccepted := parsed_accepted hsize
      constructor
      · constructor
        · intro hsuccess
          exact ⟨rfl, hsize, hlength, hcrc, (haccepted hsuccess).1⟩
        · rintro ⟨-, hbytes⟩
          exact parsePayloads_of_splits hsize hbytes.splits
      · intro hsuccess
        exact (haccepted hsuccess).2
    · refine ⟨⟨?_, fun hbytes => absurd hbytes.2.crc hcrc⟩, ?_⟩ <;> intro hsuccess <;>
        cases hsuccess
    · refine ⟨⟨?_, fun hbytes => absurd hbytes.2.length hlength⟩, ?_⟩ <;> intro hsuccess <;>
        cases hsuccess
    · refine ⟨⟨?_, fun hbytes => absurd hbytes.2.size hsize⟩, ?_⟩ <;> intro hsuccess <;>
        cases hsuccess
  · have herror : (fnParseMsgData msgData).1 ≠ .success := by
      unfold fnParseMsgData
      rw [hremove]
      split
      · next heq => exact absurd (congrArg Prod.fst heq) hstatus
      · intro hsuccess
        cases hsuccess
    exact ⟨⟨fun hsuccess => absurd hsuccess herror, fun hbytes => absurd hbytes.1 hstatus⟩,
      fun hsuccess => absurd hsuccess herror⟩

/-- A message of one field that holds one byte. -/
def oneFieldMsg : List UInt8 :=
  [73, 0, 0, 0, 204, 203, 44, 205] ++ List.replicate 56 0 ++ [9, 0, 0, 0, 1, 0, 0, 0x30, 7]

theorem fnParseMsgData_accepts_oneField :
    (fnParseMsgData oneFieldMsg).1 = .success ∧
      (fnParseMsgData oneFieldMsg).2.completeMsg = oneFieldMsg := by
  have hremove : fnRemoveDataTransparency oneFieldMsg = (.success, oneFieldMsg) := by
    decide +kernel
  have haccepts := (fnParseMsgData_accepts oneFieldMsg).2 (by rw [hremove]; decide)
  rw [hremove] at haccepts
  have hfields : Splits (oneFieldMsg.drop 64) := by
    refine ⟨[[9, 0, 0, 0, 1, 0, 0, 0x30, 7]], rfl, ?_⟩
    decide
  have hsuccess := haccepts.1.mpr ⟨rfl, by decide, by decide, by decide +kernel, hfields⟩
  exact ⟨hsuccess, haccepts.2 hsuccess⟩

/-! ## Where the sizes wrap -/

/-- A message without fields, in front of 2 ^ 32 bytes that nobody looks at. -/
theorem fnParseMsgData_wraps {message rest : List UInt8} (hmessage : message.length = 64)
    (hlength : convertToUint32 (message.take 4) = 64)
    (hcrc : crc32All (message.drop 8) = convertToUint32 ((message.drop 4).take 4))
    (hrest : rest.length = 2 ^ 32) :
    (fnParseMsgData (fnAddDataTransparency (message ++ rest))).1 = .success := by
  have hsize : UInt32.ofNat (message ++ rest).length = 64 := by
    rw [List.length_append, hmessage, hrest]
    decide
  have hcrcSize : UInt32.ofNat ((message ++ rest).drop 8).length = 56 := by
    rw [List.length_drop, List.length_append, hmessage, hrest]
    decide
  have hword : convertToUint32 (extractSubVector (message ++ rest) 0 4) = 64 := by
    rw [extractSubVector_eq, List.drop_zero, List.take_append_of_le_length (by omega), hlength]
  have hstated : extractSubVector (message ++ rest) 4 4 = (message.drop 4).take 4 := by
    rw [extractSubVector_eq, List.drop_append_of_le_length (by omega),
      List.take_append_of_le_length (by rw [List.length_drop]; omega)]
  have hchecked : crc32 ((message ++ rest).drop 8) 56 = crc32All (message.drop 8) := by
    have htake : ((message ++ rest).drop 8).take (56 : UInt32).toNat = message.drop 8 := by
      rw [List.drop_append_of_le_length (by omega)]
      exact List.take_left' (by rw [List.length_drop, hmessage]; rfl)
    rw [crc32, htake, crc32All]
  unfold fnParseMsgData
  rw [fnRemove_fnAddDataTransparency]
  dsimp only
  rw [hsize, if_pos (by decide), hword, if_pos rfl, hcrcSize, hchecked, hstated, if_pos hcrc,
    parsePayloads, if_neg (by decide)]

/-- A message without fields. -/
def noFieldMsg : List UInt8 := [64, 0, 0, 0, 73, 165, 200, 211] ++ List.replicate 56 0

/-- The same with 2 ^ 32 bytes behind it, as it is sent. -/
def wrappedMsg : List UInt8 := fnAddDataTransparency (noFieldMsg ++ List.replicate (2 ^ 32) 0)

theorem not_fnParseMsgData_accepts :
    (fnParseMsgData wrappedMsg).1 = .success ∧
      ¬WellFormedBytes (fnRemoveDataTransparency wrappedMsg).2 := by
  have hlength : noFieldMsg.length = 64 := by decide
  constructor
  · exact fnParseMsgData_wraps hlength (by decide) (by decide +kernel) List.length_replicate
  · unfold wrappedMsg
    rw [fnRemove_fnAddDataTransparency]
    intro hbytes
    have hstated := hbytes.length
    rw [statedLength_append (by omega), List.length_append, List.length_replicate,
      hlength] at hstated
    revert hstated
    decide

end LinuxPBS.Upt
