import Mathlib
import LinuxPBS.Lcsc.Command

/-!
# The frame round trip of the contactless smart card reader

The receiver knows from the fourth byte on how long the frame is, so it stays in the frame
whatever the payload holds (`silent_receiving`), and the last byte is the one it answers.
`receive_serialize` puts this together with the checks and the parser.

The lengths that `prepareCmd` writes down are those of its frames (`dataLen_prepareCmd`),
as long as a block fits a length field of sixteen bits.
-/

namespace LinuxPBS.Lcsc

open Feed

/-! ## Numbers -/

/-- The two bytes of a number are put together again. -/
theorem wordOf_bytesOf (value : UInt16) :
    wordOf (value >>> 8).toUInt8 (value &&& 0xFF).toUInt8 = value := by
  apply UInt16.toNat_inj.mp
  have hlow : ∀ n : ℕ, n &&& 255 = n % 256 := fun n => Nat.and_two_pow_sub_one_eq_mod n 8
  have hlt := value.toNat_lt
  simp only [wordOf, UInt16.toNat_or, UInt16.toNat_shiftLeft, UInt16.toNat_shiftRight,
    UInt16.toNat_and, UInt8.toNat_toUInt16, UInt16.toNat_toUInt8, UInt16.toNat_ofNat,
    Nat.reduceMod, Nat.reducePow, hlow]
  have hhigh : (value.toNat >>> 8) % 256 = value.toNat / 256 := by
    rw [Nat.shiftRight_eq_div_pow]
    omega
  have hbyte : value.toNat % 256 % 256 < 2 ^ 8 := by omega
  have hshift : (value.toNat / 256) <<< 8 % 65536 = (value.toNat / 256) <<< 8 := by
    rw [Nat.shiftLeft_eq]
    omega
  rw [hhigh, hshift, ← Nat.shiftLeft_add_eq_or_of_lt hbyte, Nat.shiftLeft_eq]
  omega

/-- Code and type share a byte and come out of it again. -/
theorem split_codeAndType (code : Bool) {type : UInt8} (htype : type < 128) :
    decide (((code.toUInt8 <<< 7) ||| (type &&& 0x7F)) &&& 0x80 ≠ 0) = code ∧
      ((code.toUInt8 <<< 7) ||| (type &&& 0x7F)) &&& 0x7F = type := by
  have hall : ∀ code : Bool, ∀ n : Fin 128,
      decide (((code.toUInt8 <<< 7) ||| (UInt8.ofNat n &&& 0x7F)) &&& 0x80 ≠ 0) = code ∧
        ((code.toUInt8 <<< 7) ||| (UInt8.ofNat n &&& 0x7F)) &&& 0x7F = UInt8.ofNat n := by
    decide +kernel
  have htyped := hall code ⟨type.toNat, UInt8.lt_iff_toNat_lt.mp htype⟩
  simpa only [UInt8.ofNat_toNat] using htyped

theorem dataLen_serialize (msg : CscPacket) : dataLen msg.serialize = msg.len.toNat :=
  congrArg UInt16.toNat (wordOf_bytesOf msg.len)

theorem length_serialize (msg : CscPacket) : msg.serialize.length = msg.payload.length + 6 := by
  simp [CscPacket.serialize, CscPacket.serializeWithoutCrc, bytesOf]

/-! ## The receiver -/

/-- A frame the receiver takes: it starts with the attention code and its length field is its
length. -/
structure Framed (frame : List UInt8) : Prop where
  attention : frame.head? = some attentionCode
  declared : dataLen frame = frame.length
  long : 6 ≤ frame.length
  fits : frame.length ≤ rxBufferSize

variable {frame : List UInt8}

/-- The receiver behind a part of a frame. -/
def receiving (stored : List UInt8) : Receiver := { rxState := .rxReceiving, rxBuffer := stored }

/-- The receiver behind a frame. -/
def received (frame : List UInt8) : Receiver := { rxState := .rxStart, rxBuffer := frame }

theorem dataLen_append {first : List UInt8} (hlong : 4 ≤ first.length) (second : List UInt8) :
    dataLen (first ++ second) = dataLen first := by
  unfold dataLen
  rw [List.getD_append _ _ _ _ (by omega), List.getD_append _ _ _ _ (by omega)]

/-- What a byte does that still fits the buffer. -/
theorem onByte_stored {stored : List UInt8} (hroom : stored.length < rxBufferSize) (data : UInt8) :
    (receiving stored).onByte data =
      if (stored ++ [data]).length < 4 then (receiving (stored ++ [data]), false)
      else if dataLen (stored ++ [data]) < 6 ∨ dataLen (stored ++ [data]) > rxBufferSize then
        ({}, false)
      else if (stored ++ [data]).length = dataLen (stored ++ [data]) then
        (received (stored ++ [data]), true)
      else if (stored ++ [data]).length > dataLen (stored ++ [data]) then ({}, false)
      else (receiving (stored ++ [data]), false) :=
  if_neg (Nat.not_le.mpr hroom)

/-- In the middle of a frame a byte is stored, whatever it is. -/
theorem onByte_receiving (hframed : Framed frame) {stored more : List UInt8} {data : UInt8}
    (hframe : stored ++ data :: more = frame) (hmore : more ≠ []) :
    (receiving stored).onByte data = (receiving (stored ++ [data]), false) := by
  have hpos := List.length_pos_of_ne_nil hmore
  have hfits := hframed.fits
  have hlong := hframed.long
  have hstored : (stored ++ [data]).length = stored.length + 1 := by simp
  have hlength : stored.length + 1 + more.length = frame.length := by
    rw [← hframe, List.length_append, List.length_cons]
    omega
  rw [onByte_stored (by omega)]
  by_cases hshort : (stored ++ [data]).length < 4
  · rw [if_pos hshort]
  · have hdeclared : dataLen (stored ++ [data]) = frame.length := by
      rw [← hframed.declared, ← hframe, ← List.singleton_append (l := more), ← List.append_assoc,
        dataLen_append (Nat.not_lt.mp hshort)]
    rw [if_neg hshort, hdeclared, hstored, if_neg (by omega), if_neg (by omega),
      if_neg (by omega)]

/-- The last byte of a frame is the one that is answered. -/
theorem onByte_last (hframed : Framed frame) {stored : List UInt8} {data : UInt8}
    (hframe : stored ++ [data] = frame) :
    (receiving stored).onByte data = (received frame, true) := by
  have hfits := hframed.fits
  have hlong := hframed.long
  have hlength : stored.length + 1 = frame.length := by
    rw [← hframe, List.length_append, List.length_singleton]
  rw [onByte_stored (by omega), hframe, hframed.declared, if_neg (by omega), if_neg (by omega),
    if_pos rfl]

/-- The receiver answers nothing inside a frame, whatever the bytes are. -/
theorem silent_receiving (hframed : Framed frame) {stored more : List UInt8} {last : UInt8}
    (hframe : stored ++ more ++ [last] = frame) :
    Silent Receiver.onByte false (receiving stored) more (receiving (stored ++ more)) := by
  induction more generalizing stored with
  | nil =>
      rw [List.append_nil]
      exact .nil
  | cons data more ih =>
      have hcut : stored ++ data :: (more ++ [last]) = frame := by
        rw [← hframe, List.append_assoc, List.cons_append]
      have hone := onByte_receiving hframed hcut (by simp)
      have hmoved : stored ++ [data] ++ more ++ [last] = frame := by
        rw [← hcut]
        simp only [List.append_assoc, List.cons_append, List.nil_append]
      have hrest := ih hmoved
      rw [List.append_assoc, List.singleton_append] at hrest
      exact .cons _ hone hrest

/-- Bytes in front of a frame are skipped. -/
theorem silent_noise {noise : List UInt8} (hnoise : attentionCode ∉ noise) {idle : Receiver}
    (hidle : idle.rxState = .rxStart) : Silent Receiver.onByte false idle noise idle := by
  induction noise with
  | nil => exact .nil
  | cons data noise ih =>
      rw [List.mem_cons, not_or] at hnoise
      refine .cons idle ?_ (ih hnoise.2)
      simp only [Receiver.onByte, hidle, if_neg (Ne.symm hnoise.1)]

theorem onByte_attention {idle : Receiver} (hidle : idle.rxState = .rxStart) :
    idle.onByte attentionCode = (receiving [attentionCode], false) := by
  simp only [Receiver.onByte, hidle, if_true, receiving]

/-- A frame behind bytes that are no attention code is received, and answered where it ends. -/
theorem receive_framed (hframed : Framed frame) {noise : List UInt8}
    (hnoise : attentionCode ∉ noise) {idle : Receiver} (hidle : idle.rxState = .rxStart)
    {chunks : List (List UInt8)} (hchunks : chunks.flatten = noise ++ frame) :
    ∃ before chunk after, chunks = before ++ chunk :: after ∧ chunk ≠ [] ∧ after.flatten = [] ∧
      feed isRxResponseComplete idle chunks = (received frame,
        List.replicate before.length false ++ true :: List.replicate after.length false) := by
  obtain ⟨head, body, last, rfl⟩ : ∃ head body last, frame = head :: (body ++ [last]) := by
    have hlong := hframed.long
    cases frame with
    | nil => simp at hlong
    | cons head rest =>
        rcases List.eq_nil_or_concat rest with hnil | ⟨body, last, hrest⟩
        · rw [hnil] at hlong
          simp at hlong
        · exact ⟨head, body, last, by rw [hrest, List.concat_eq_append]⟩
  obtain rfl : head = attentionCode := Option.some.inj hframed.attention
  have hcut : [attentionCode] ++ body ++ [last] = attentionCode :: (body ++ [last]) := rfl
  have hbody := silent_receiving hframed hcut
  have hsilent := (silent_noise hnoise hidle).append (.cons _ (onByte_attention hidle) hbody)
  have hlast := onByte_last hframed hcut
  have hends : chunks.flatten = noise ++ attentionCode :: body ++ [last] := by
    rw [hchunks, List.append_assoc, List.cons_append]
  exact feed_feedUntil hends hsilent hlast

/-! ## Packets -/

/-- A packet whose length field and CRC are right. -/
def packetOf (code : Bool) (type : UInt8) (payload : List UInt8) : CscPacket :=
  CscPacket.withCrc
    { attn := attentionCode
      code := code
      type := type
      len := UInt16.ofNat (payload.length + 6)
      payload := payload }

variable {code : Bool} {type : UInt8} {payload : List UInt8}

theorem toNat_len (hfits : payload.length + 6 ≤ rxBufferSize) :
    (packetOf code type payload).len.toNat = payload.length + 6 := by
  have hsmall : payload.length + 6 < 2 ^ 16 := by
    have : rxBufferSize < 2 ^ 16 := by decide
    omega
  exact UInt16.toNat_ofNat_of_lt' hsmall

theorem framed_serialize (hfits : payload.length + 6 ≤ rxBufferSize) :
    Framed (packetOf code type payload).serialize := by
  have hlength := length_serialize (packetOf code type payload)
  have hpayload : (packetOf code type payload).payload = payload := rfl
  rw [hpayload] at hlength
  refine ⟨rfl, ?_, ?_, ?_⟩
  · rw [dataLen_serialize, toNat_len hfits, hlength]
  · rw [hlength]
    omega
  · rw [hlength]
    exact hfits

theorem serialize_eq (msg : CscPacket) :
    msg.serialize = msg.attn :: ((msg.code.toUInt8 <<< 7) ||| (msg.type &&& 0x7F)) ::
      (msg.len >>> 8).toUInt8 :: (msg.len &&& 0xFF).toUInt8 :: (msg.payload ++ bytesOf msg.crc) := by
  simp [CscPacket.serialize, CscPacket.serializeWithoutCrc, bytesOf]

/-- What is parsed is what has been serialised. -/
theorem deserialize_serialize {msg : CscPacket} (htype : msg.type < 128)
    (hlen : msg.len.toNat = msg.payload.length + 6) :
    CscPacket.deserialize msg.serialize = msg := by
  obtain ⟨hcode, htyped⟩ := split_codeAndType msg.code htype
  have hpayload : msg.len.toNat - 6 = msg.payload.length := by omega
  have htake : (msg.payload ++ bytesOf msg.crc).take msg.payload.length = msg.payload :=
    List.take_left
  have hdrop : (msg.payload ++ bytesOf msg.crc).drop msg.payload.length = bytesOf msg.crc :=
    List.drop_left
  have hcrc : wordOf ((bytesOf msg.crc).getD 0 0) ((bytesOf msg.crc).getD 1 0) = msg.crc :=
    wordOf_bytesOf msg.crc
  rw [serialize_eq]
  simp only [CscPacket.deserialize, wordOf_bytesOf, hpayload, htake, hdrop, hcrc, hcode, htyped]

theorem serialize_take (msg : CscPacket) :
    msg.serialize.take (msg.serialize.length - 2) = msg.serializeWithoutCrc := by
  have hlength : msg.serialize.length - 2 = msg.serializeWithoutCrc.length := by
    rw [CscPacket.serialize, List.length_append]
    rfl
  rw [hlength]
  exact List.take_left

/-- The checks of a received frame let a packet pass whose length and CRC are right. -/
theorem parseFrame_serialize {msg : CscPacket} (hattn : msg.attn = attentionCode)
    (htype : msg.type < 128) (hlen : msg.len.toNat = msg.payload.length + 6)
    (hcrc : msg.crc = crc16Ccitt msg.serializeWithoutCrc) :
    parseFrame msg.serialize = .ok msg := by
  have hlength := length_serialize msg
  have hhead : msg.serialize.head? = some attentionCode := by
    rw [serialize_eq, List.head?_cons, hattn]
  have hdeclared : dataLen msg.serialize = msg.serialize.length := by
    rw [dataLen_serialize, hlen, hlength]
  unfold parseFrame
  rw [if_neg (by omega), if_neg (not_not.mpr hhead), if_neg (not_not.mpr hdeclared)]
  dsimp only
  rw [serialize_take, deserialize_serialize htype hlen, if_neg (not_not.mpr hcrc.symm)]

/-! ## The lengths of the commands -/

/-- The data that the senders give to the commands. -/
def Suits : Cmd → PayloadData → Prop
  | .login2, data => ∃ challenge, data = .bytes challenge ∧ challenge.length = aesBlockSize
  | .cardDeduct, data => ∃ amount, data = .amount amount
  | .cardFlush, data => ∃ seed, data = .amount seed
  | .uploadCfgFile, data => ∃ block, data = .bytes block
  | .uploadCilFile, data => ∃ block, data = .bytes block
  | .uploadBlFile, data => ∃ block, data = .bytes block
  | _, _ => True

/-- The frame of the data fits a length field of sixteen bits. -/
def FitsLength : PayloadData → Prop
  | .bytes block => block.length + 6 < 2 ^ 16
  | _ => True

/-- The length that a frame declares is its own. -/
def DeclaresLength (frame : List UInt8) : Prop := dataLen frame = frame.length

theorem declaresLength_withCrc {msg : CscPacket} :
    DeclaresLength msg.withCrc.serialize ↔ msg.len.toNat = msg.payload.length + 6 := by
  unfold DeclaresLength
  rw [dataLen_serialize, length_serialize]
  exact Iff.rfl

theorem length_encryptAes256 {evp : Evp} (hevp : evp.EncryptsBlocks) {challenge : List UInt8}
    (hchallenge : challenge.length = aesBlockSize) :
    (encryptAes256 evp challenge).length = aesBlockSize := by
  obtain ⟨hinit, hblocks⟩ := hevp
  obtain ⟨⟨out, hupdate, hout⟩, hfinal⟩ := hblocks challenge hchallenge
  simp [encryptAes256, hinit, hupdate, hfinal, hout]

theorem declaresLength_blockOf {msg : CscPacket} {block : List UInt8} :
    DeclaresLength (blockOf msg (.bytes block)).withCrc.serialize ↔ block.length + 6 < 2 ^ 16 := by
  rw [declaresLength_withCrc]
  show (UInt16.ofNat (block.length + 6)).toNat = block.length + 6 ↔ _
  rw [UInt16.toNat_ofNat']
  refine ⟨fun heq => ?_, Nat.mod_eq_of_lt⟩
  rw [← heq]
  exact Nat.mod_lt _ (by decide)

theorem fitsLength_of_chunked {cmd : Cmd} (hchunked : isChunkedCommand cmd = true)
    {block : List UInt8} :
    (isChunkedCommand cmd = true → FitsLength (.bytes block)) ↔ block.length + 6 < 2 ^ 16 :=
  ⟨fun hfits => hfits hchunked, fun hfits _ => hfits⟩

/-- The commands declare the size of their frames, an upload only of a block that is not too
large. -/
theorem declaresLength_prepareCmd {evp : Evp} (hevp : evp.EncryptsBlocks) (epochSeconds : UInt32)
    {cmd : Cmd} {data : PayloadData} (hsuits : Suits cmd data) :
    DeclaresLength (prepareCmd evp epochSeconds cmd data) ↔
      (isChunkedCommand cmd = true → FitsLength data) := by
  unfold prepareCmd
  cases cmd with
  | login2 =>
      obtain ⟨challenge, rfl, hchallenge⟩ := hsuits
      have hlength := length_encryptAes256 hevp hchallenge
      rw [declaresLength_withCrc]
      simp [fillCmd, hlength, aesBlockSize, isChunkedCommand]
  | cardDeduct =>
      obtain ⟨amount, rfl⟩ := hsuits
      rw [declaresLength_withCrc]
      simp [fillCmd, bigEndian32, isChunkedCommand]
  | cardFlush =>
      obtain ⟨seed, rfl⟩ := hsuits
      rw [declaresLength_withCrc]
      simp [fillCmd, bigEndian32, isChunkedCommand]
  | uploadCfgFile =>
      obtain ⟨block, rfl⟩ := hsuits
      exact declaresLength_blockOf.trans (fitsLength_of_chunked rfl).symm
  | uploadCilFile =>
      obtain ⟨block, rfl⟩ := hsuits
      exact declaresLength_blockOf.trans (fitsLength_of_chunked rfl).symm
  | uploadBlFile =>
      obtain ⟨block, rfl⟩ := hsuits
      exact declaresLength_blockOf.trans (fitsLength_of_chunked rfl).symm
  | _ =>
      rw [declaresLength_withCrc]
      simp [fillCmd, bigEndian32, isChunkedCommand]

theorem length_le_of_mem_chunkData {fileData chunk : List UInt8} {chunkSize : ℕ}
    (hmem : chunk ∈ chunkData fileData chunkSize) : chunk.length ≤ chunkSize := by
  obtain ⟨block, -, rfl⟩ := List.mem_map.mp hmem
  exact List.length_take_le _ _

theorem length_le_of_mem_cfgChunks {fileData block : List UInt8}
    (hmem : block ∈ cfgChunks fileData) : block.length ≤ uploadChunkSize + 2 := by
  rcases List.mem_append.mp hmem with hblock | hlast
  · obtain ⟨chunk, hchunk, rfl⟩ := List.mem_map.mp hblock
    have hlength := length_le_of_mem_chunkData hchunk
    simp only [sizeField, bytesOf, List.cons_append, List.nil_append, List.length_cons]
    omega
  · rw [List.mem_singleton.mp hlast]
    decide

theorem length_le_of_mem_listChunks {issuerOffset : UInt8} {fileData block : List UInt8}
    (hmem : block ∈ listChunks issuerOffset fileData) : block.length ≤ uploadChunkSize + 3 := by
  rcases List.mem_append.mp hmem with hblock | hlast
  · obtain ⟨index, hindex, rfl⟩ := List.mem_mapIdx.mp hblock
    have hlength := length_le_of_mem_chunkData (List.getElem_mem hindex)
    simp only [sizeField, bytesOf, List.cons_append, List.nil_append, List.length_cons]
    omega
  · rw [List.mem_singleton.mp hlast]
    decide

/-- The blocks that the upload commands of the reader are built of. -/
def uploadBlocks (fileData : List UInt8) : Cmd → List (List UInt8)
  | .uploadCfgFile => cfgChunks fileData
  | .uploadCilFile => cilChunks fileData
  | .uploadBlFile => blChunks fileData
  | _ => []

theorem fitsLength_of_mem_uploadBlocks {fileData block : List UInt8} {cmd : Cmd}
    (hmem : block ∈ uploadBlocks fileData cmd) : FitsLength (.bytes block) := by
  have hbound : block.length ≤ uploadChunkSize + 3 := by
    cases cmd with
    | uploadCfgFile => exact Nat.le_succ_of_le (length_le_of_mem_cfgChunks hmem)
    | uploadCilFile => exact length_le_of_mem_listChunks hmem
    | uploadBlFile => exact length_le_of_mem_listChunks hmem
    | _ => exact absurd hmem List.not_mem_nil
  have hsmall : uploadChunkSize + 3 + 6 < 2 ^ 16 := by decide
  show block.length + 6 < 2 ^ 16
  omega

/-! ## The round trip -/

/-- What comes of the bytes of a packet that are read in chunks. -/
def Transported (noise : List UInt8) (msg : CscPacket) : Prop :=
  ∀ (idle : Receiver) (chunks : List (List UInt8)), idle.rxState = .rxStart →
    chunks.flatten = noise ++ msg.serialize →
      ∃ before chunk after, chunks = before ++ chunk :: after ∧ chunk ≠ [] ∧ after.flatten = [] ∧
        feed isRxResponseComplete idle chunks = (received msg.serialize,
          List.replicate before.length false ++ true :: List.replicate after.length false)

/-- A packet with the right length and CRC is received in whatever chunks it is read, passes the
checks and is parsed to what it was; a command declares the size of its frame, an upload exactly
if its block is not too large, and no block of a file is. -/
theorem lcsc_roundTrip (evp : Evp) (hevp : evp.EncryptsBlocks) :
    (∀ (code : Bool) (type : UInt8) (payload noise : List UInt8), type < 128 →
      payload.length + 6 ≤ rxBufferSize → attentionCode ∉ noise →
        Transported noise (packetOf code type payload) ∧
        parseFrame (packetOf code type payload).serialize = .ok (packetOf code type payload) ∧
        CscPacket.deserialize (packetOf code type payload).serialize =
          packetOf code type payload) ∧
    (∀ epochSeconds cmd data, Suits cmd data →
      (DeclaresLength (prepareCmd evp epochSeconds cmd data) ↔
        (isChunkedCommand cmd = true → FitsLength data))) ∧
    ∀ fileData cmd, ∀ block ∈ uploadBlocks fileData cmd, FitsLength (.bytes block) := by
  refine ⟨fun code type payload noise htype hfits hnoise => ⟨?_, ?_, ?_⟩, ?_, ?_⟩
  · intro idle chunks hidle hchunks
    exact receive_framed (framed_serialize hfits) hnoise hidle hchunks
  · exact parseFrame_serialize rfl htype (toNat_len hfits) rfl
  · exact deserialize_serialize htype (toNat_len hfits)
  · exact fun epochSeconds cmd data hsuits => declaresLength_prepareCmd hevp epochSeconds hsuits
  · exact fun fileData cmd block hmem => fitsLength_of_mem_uploadBlocks hmem

/-- What OpenSSL makes of the challenge `00 01 .. 0F` with the key of the reader; other blocks
do not matter here. -/
def evpExample : Evp where
  init := true
  update := fun block =>
    if block = (List.range 16).map UInt8.ofNat then
      some [0x6F, 0xA8, 0x90, 0x37, 0xC5, 0xE2, 0xF3, 0xFE, 0xF6, 0xF2, 0x45, 0x64, 0x14, 0xE5,
        0xA3, 0x63]
    else some block
  final := fun _ => some []

theorem evpExample_encryptsBlocks : evpExample.EncryptsBlocks := by
  refine ⟨rfl, fun block hblock => ⟨?_, rfl⟩⟩
  by_cases hexample : block = (List.range 16).map UInt8.ofNat
  · exact ⟨_, if_pos hexample, rfl⟩
  · exact ⟨block, if_neg hexample, hblock⟩

theorem lcsc_roundTrip_answer :
    (parseFrame (packetOf true 0x22 [0x13, 0xA5]).serialize = .ok (packetOf true 0x22 [0x13, 0xA5]) ∧
      Transported [0x00, 0xFF] (packetOf true 0x22 [0x13, 0xA5])) ∧
    DeclaresLength (prepareCmd evpExample 0 .login2 (.bytes ((List.range 16).map UInt8.ofNat))) := by
  obtain ⟨htrip, hdeclares, -⟩ := lcsc_roundTrip evpExample evpExample_encryptsBlocks
  obtain ⟨htransported, hparsed, -⟩ :=
    htrip true 0x22 [0x13, 0xA5] [0x00, 0xFF] (by decide) (by decide) (by decide)
  refine ⟨⟨hparsed, htransported⟩, ?_⟩
  exact (hdeclares 0 .login2 _ ⟨_, rfl, by decide⟩).mpr fun hchunked => Bool.noConfusion hchunked

/-- The length field of an upload block of 65530 bytes is zero. -/
theorem not_declaresLength_prepareCmd :
    ¬ ∀ epochSeconds cmd data, Suits cmd data →
      DeclaresLength (prepareCmd evpExample epochSeconds cmd data) := by
  intro hall
  have hblock := hall 0 .uploadCfgFile (.bytes (List.replicate 65530 0)) ⟨_, rfl⟩
  have hfits := declaresLength_blockOf.mp hblock
  rw [List.length_replicate] at hfits
  omega

end LinuxPBS.Lcsc
