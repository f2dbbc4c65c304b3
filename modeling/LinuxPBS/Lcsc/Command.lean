import LinuxPBS.Lcsc.Packet

/-!
# The commands of the contactless smart card reader

`prepareCmd` writes the length of every command down by hand, next to the code that
fills its payload; the length of an upload is computed from its block.  The type of a
command is the type its response must have.
-/

namespace LinuxPBS.Lcsc

/-- `LCSC_CMD` -/
inductive Cmd
  | getStatusCmd
  | login1
  | login2
  | logout
  | getCardId
  | cardBalance
  | cardDeduct
  | cardRecord
  | cardFlush
  | getTime
  | setTime
  | uploadCfgFile
  | uploadCilFile
  | uploadBlFile
  deriving DecidableEq, Repr

/-- The `LCSC_CMD_TYPE` that `prepareCmd` sets, and the one `isCurrentCmdResponse` asks for. -/
def Cmd.type : Cmd → UInt8
  | .getStatusCmd => 0x00
  | .login1 => 0x10
  | .login2 => 0x11
  | .logout => 0x12
  | .getCardId => 0x20
  | .cardBalance => 0x21
  | .cardDeduct => 0x22
  | .cardRecord => 0x23
  | .cardFlush => 0x24
  | .getTime => 0x42
  | .setTime => 0x41
  | .uploadCfgFile => 0x32
  | .uploadCilFile => 0x31
  | .uploadBlFile => 0x30

/-- `LCSCReader::isCurrentCmdResponse` -/
def isCurrentCmdResponse (currCmd : Cmd) (respType : UInt8) : Bool := respType = currCmd.type

/-- `LCSCReader::isChunkedCommand` -/
def isChunkedCommand : Cmd → Bool
  | .uploadCfgFile | .uploadCilFile | .uploadBlFile => true
  | _ => false

/-- What the `shared_ptr<void>` of a command points to. -/
inductive PayloadData
  | null
  | bytes (bytes : List UInt8)
  | amount (value : UInt32)
  | chunks (chunks : List (List UInt8))
  deriving DecidableEq, Repr

/-! ## Encryption -/

/-- The OpenSSL functions that `encryptAES256` calls on a challenge, with its key. -/
structure Evp where
  /-- `EVP_CIPHER_CTX_new` and `EVP_EncryptInit_ex` succeed -/
  init : Bool
  /-- what `EVP_EncryptUpdate` writes -/
  update : List UInt8 → Option (List UInt8)
  /-- what `EVP_EncryptFinal_ex` writes -/
  final : List UInt8 → Option (List UInt8)

/-- `AES_BLOCK_SIZE` -/
def aesBlockSize : ℕ := 16

/-- A block is encrypted to a block, and nothing is left for the end: the padding is off. -/
def Evp.EncryptsBlocks (evp : Evp) : Prop :=
  evp.init = true ∧ ∀ block, block.length = aesBlockSize →
    (∃ out, evp.update block = some out ∧ out.length = aesBlockSize) ∧ evp.final block = some []

/-- `LCSCReader::encryptAES256` on a vector of sixteen bytes; on an error that is left with the
size it has. -/
def encryptAes256 (evp : Evp) (challenge : List UInt8) : List UInt8 :=
  let size := challenge.length + aesBlockSize
  if !evp.init then List.replicate 16 0
  else
    match evp.update challenge with
    | none => List.replicate size 0
    | some out =>
        match evp.final challenge with
        | none => out ++ List.replicate (size - out.length) 0
        | some last => out ++ last

/-! ## `prepareCmd` -/

/-- The four bytes of a number, the high one first. -/
def bigEndian32 (value : UInt32) : List UInt8 :=
  [(value >>> 24).toUInt8, (value >>> 16).toUInt8, (value >>> 8).toUInt8, value.toUInt8]

/-- The length and the payload of an upload block, in all three commands. -/
def blockOf (msg : CscPacket) : PayloadData → CscPacket
  | .bytes payload => { msg with payload := payload, len := UInt16.ofNat (payload.length + 6) }
  | _ => msg

/-- The `switch` of `prepareCmd`.  A missing datum throws, and the payload stays empty; no
command is given one of another type. -/
def fillCmd (evp : Evp) (epochSeconds : UInt32) (msg : CscPacket) (cmd : Cmd)
    (payloadData : PayloadData) : CscPacket :=
  let msg := { msg with type := cmd.type }
  match cmd with
  | .getStatusCmd => { msg with len := 0x0006 }
  | .login1 =>
      { msg with
        len := 0x0017
        payload := 0x01 :: (List.range 16).map UInt8.ofNat }
  | .login2 =>
      match payloadData with
      | .bytes challenge => { msg with len := 0x0016, payload := encryptAes256 evp challenge }
      | _ => { msg with len := 0x0016 }
  | .logout => { msg with len := 0x0006 }
  | .getCardId => { msg with len := 0x0007, payload := [0x01] }
  | .cardBalance => { msg with len := 0x0007, payload := [0x01] }
  | .cardDeduct =>
      match payloadData with
      | .amount amount =>
          { msg with
            len := 0x0012
            payload := 0x04 :: (bigEndian32 amount ++ bigEndian32 epochSeconds) ++
              [0x00, 0x00, 0x02] }
      | _ => { msg with len := 0x0012 }
  | .cardRecord => { msg with len := 0x0006 }
  | .cardFlush =>
      match payloadData with
      | .amount seed => { msg with len := 0x000A, payload := bigEndian32 seed }
      | _ => { msg with len := 0x000A }
  | .getTime => { msg with len := 0x0006 }
  | .setTime => { msg with len := 0x000A, payload := bigEndian32 epochSeconds }
  | .uploadCfgFile => blockOf msg payloadData
  | .uploadCilFile => blockOf msg payloadData
  | .uploadBlFile => blockOf msg payloadData

/-- The CRC of a packet is set last. -/
def CscPacket.withCrc (msg : CscPacket) : CscPacket :=
  { msg with crc := crc16Ccitt msg.serializeWithoutCrc }

/-- `LCSCReader::prepareCmd` -/
def prepareCmd (evp : Evp) (epochSeconds : UInt32) (cmd : Cmd) (payloadData : PayloadData) :
    List UInt8 :=
  (fillCmd evp epochSeconds { attn := attentionCode, code := false } cmd
    payloadData).withCrc.serialize

/-! ## The blocks of a file -/

/-- `LCSCReader::chunkData`, with the blocks from the offsets `0`, `chunkSize`, `2 * chunkSize`
and so on below the size. -/
def chunkData (data : List UInt8) (chunkSize : ℕ) : List (List UInt8) :=
  (List.range ((data.length + chunkSize - 1) / chunkSize)).map fun block =>
    (data.drop (block * chunkSize)).take chunkSize

/-- `chunkSize` -/
def uploadChunkSize : ℕ := 512

/-- The size field of a chunk. -/
def sizeField (chunk : List UInt8) : List UInt8 := bytesOf (UInt16.ofNat chunk.length)

/-- The blocks of `FnSendUploadCFGFile`. -/
def cfgChunks (fileData : List UInt8) : List (List UInt8) :=
  (chunkData fileData uploadChunkSize).map (fun chunk => sizeField chunk ++ chunk) ++ [[0x00, 0x00]]

/-- The blocks of a list of blocked cards: the first one names its issuer. -/
def listChunks (issuerOffset : UInt8) (fileData : List UInt8) : List (List UInt8) :=
  let chunks := chunkData fileData uploadChunkSize
  let blocks := chunks.mapIdx fun index chunk =>
    (if index = 0 then chunk.getD 5 0 - issuerOffset else 0x00) :: (sizeField chunk ++ chunk)
  blocks ++ [[0x00, 0x00, 0x00]]

/-- The blocks of `FnSendUploadCILFile`. -/
def cilChunks (fileData : List UInt8) : List (List UInt8) := listChunks 143 fileData

/-- The blocks of `FnSendUploadBLFile`. -/
def blChunks (fileData : List UInt8) : List (List UInt8) := listChunks 147 fileData

end LinuxPBS.Lcsc
