import UnifiedAttestation.Toolkit.Codec

/-! The records that travel between the attester, the verifier and the relying
party, the values computed from them, and their encodings.

The clock, the measurement file and drawn randomness are arguments.
-/

set_option autoImplicit false

namespace UnifiedAttestation.Toolkit

open Wire (Bytes Outcome Reader Reads toBeBytes fromBytesBe utf8 bail orBail orPanic context reserve)

section Records
variable (S : Suite)

/-- A key pair; every way to make one derives the public key. -/
structure KeyInfor where
  signingKey : S.SigningKey
  verifyingKey : S.VerifyingKey
  paired : verifyingKey = S.verifyingKey signingKey

structure DeviceClientInfor where
  verifyingKey : S.VerifyingKey
  measuredValue : String
  merkleLeaf : S.Scalar
  timestamp : Duration
  period : Duration

structure ResponseDeviceInfor where
  verifyingKey : S.VerifyingKey
  attesterAddr : String
  timestamp : Duration
  period : Duration
  sig : Option S.Signature
  shrubsPath : Option (List S.Scalar)
  shrubsTag : Option (List Bool)

structure ResponseDeviceInforWire where
  verifyingKey : Bytes
  attesterAddr : String
  timestamp : Duration
  period : Duration
  sig : Option Bytes
  shrubsPath : Option (List Bytes)
  shrubsTag : Option (List Bool)

structure PublicContext where
  root : List S.Scalar
  verifierPk : S.VerifyingKey

structure EvidenceReply where
  proof : S.Proof
  vk : S.GrothKey
  sig : S.Signature
  pk : S.VerifyingKey
  timestamp : Duration
  period : Duration
  authorizedInfor : S.Scalar
  timestampAttester : Duration
  periodAttester : Duration
  proofTimestampPeriodSignature : S.Signature

structure EncryptedMessage where
  ephemeralPublicKey : Bytes
  nonce : Bytes
  ciphertext : Bytes

/-- What `OsRng` gives to one encryption. -/
structure Draw where
  ephemeral : S.SigningKey
  nonce : Bytes
  nonce_length : nonce.length = 12

end Records

section Values
variable (S : Suite)

/-- A hundred days, the validity of a submission and of a response. -/
def responsePeriod : Duration := Duration.fromSecs 8640000 (by decide)

/-- `EVIDENCE_REPLY_ATTESTER_PERIOD_SECS`. -/
def evidenceReplyAttesterPeriod : Duration := Duration.fromSecs (2 * 60) (by decide)

def scalarOfPoint (pk : S.VerifyingKey) : S.Scalar := S.ofNat (fromBytesBe (S.pointBytes pk))

def scalarOfKey (sk : S.SigningKey) : S.Scalar := S.ofNat (fromBytesBe (S.keyBytes sk))

def scalarOfText (text : String) : S.Scalar := S.ofNat (fromBytesBe (utf8 text))

def generateDeviceMerkleLeaf (measure : String) (deviceKey : KeyInfor S) : S.Scalar :=
  let c := S.hash (scalarOfText S measure) (scalarOfKey S deviceKey.signingKey)
  S.hash c (scalarOfPoint S deviceKey.verifyingKey)

def generateDeviceClientInfor (measure : String) (now : Duration) (deviceKey : KeyInfor S) :
    DeviceClientInfor S :=
  ⟨deviceKey.verifyingKey, measure, generateDeviceMerkleLeaf S measure deviceKey, now, responsePeriod⟩

def ResponseDeviceInfor.new (now : Duration) (pk : S.VerifyingKey) : ResponseDeviceInfor S :=
  ⟨pk, "", now, responsePeriod, none, none, none⟩

def generateVerifierAuthoriedInfor (ar pk time peri : S.Scalar) : S.Scalar :=
  S.hash (S.hash (S.hash pk ar) time) peri

def generateDeviceAuthoriedInfor (devicesInfor : DeviceClientInfor S) (devicesTime : ResponseDeviceInfor S) :
    S.Scalar :=
  let pk := scalarOfPoint S devicesInfor.verifyingKey
  let ar := scalarOfText S devicesInfor.measuredValue
  let time := S.ofNat devicesTime.timestamp.secs
  let peri := S.ofNat devicesTime.period.secs
  S.hash (S.hash (S.hash pk ar) time) peri

end Values

section Signing
variable (S : Suite)

def appendField (fieldName : String) (fieldData : Bytes) : Bytes :=
  appendLenBytes (utf8 fieldName) ++ appendLenBytes fieldData

def serializeDuration (duration : Duration) : Bytes := toBeBytes 8 duration.secs ++ toBeBytes 4 duration.nanos

def proofTimestampPeriodSigningBytes (proof : S.Proof) (timestampAttester periodAttester : Duration) : Bytes :=
  appendField "proof" (S.proofBytes proof) ++
  appendField "timestamp_attester" (serializeDuration timestampAttester) ++
  appendField "period_attester" (serializeDuration periodAttester)

def signProofTimestampPeriod (signingKey : S.SigningKey) (proof : S.Proof)
    (timestampAttester periodAttester : Duration) : S.Signature :=
  S.sign signingKey (proofTimestampPeriodSigningBytes S proof timestampAttester periodAttester)

/-- `now` is absent when the clock is before the epoch. -/
def EvidenceReply.new (now : Option Duration) (proof : S.Proof) (vk : S.GrothKey)
    (verifierSignature : S.Signature) (attesterPk : S.VerifyingKey) (timestamp period : Duration)
    (authorizedInfor : S.Scalar) (attesterSigningKey : S.SigningKey) : Outcome (EvidenceReply S) := do
  let timestampAttester ← orPanic now
  let periodAttester := evidenceReplyAttesterPeriod
  pure
    { proof, vk, sig := verifierSignature, pk := attesterPk, timestamp, period, authorizedInfor,
      timestampAttester, periodAttester
      proofTimestampPeriodSignature :=
        signProofTimestampPeriod S attesterSigningKey proof timestampAttester periodAttester }

variable {S}

/-- The public inputs: public key, roots, authorized information, timestamp and period. -/
def EvidenceReply.genPublicInputs (reply : EvidenceReply S) (root : List S.Scalar) : List S.Scalar :=
  [scalarOfPoint S reply.pk] ++ root ++ [reply.authorizedInfor] ++ [S.ofNat reply.timestamp.secs] ++
    [S.ofNat reply.period.secs]

def EvidenceReply.toSigningBytesAllFields (reply : EvidenceReply S) : Bytes :=
  appendField "proof" (S.proofBytes reply.proof) ++
  appendField "vk" (S.grothKeyBytes reply.vk) ++
  appendField "sig" (S.derBytes reply.sig) ++
  appendField "pk" (S.pointBytes reply.pk) ++
  appendField "timestamp" (serializeDuration reply.timestamp) ++
  appendField "period" (serializeDuration reply.period) ++
  appendField "authorized_infor" (S.scalarBytes reply.authorizedInfor) ++
  appendField "timestamp_attester" (serializeDuration reply.timestampAttester) ++
  appendField "period_attester" (serializeDuration reply.periodAttester) ++
  appendField "proof_timestamp_period_signature" (S.derBytes reply.proofTimestampPeriodSignature)

end Signing

section Responses
variable (S : Suite)

def responseDeviceInforToWire (value : ResponseDeviceInfor S) : ResponseDeviceInforWire where
  verifyingKey := S.pointBytes value.verifyingKey
  attesterAddr := value.attesterAddr
  timestamp := value.timestamp
  period := value.period
  sig := value.sig.map (encodeSignature S)
  shrubsPath := value.shrubsPath.map (List.map (encodeScalar S))
  shrubsTag := value.shrubsTag

def responseDeviceInforFromWire (wire : ResponseDeviceInforWire) : Outcome (ResponseDeviceInfor S) := do
  let shrubsPath ← wire.shrubsPath.mapM (List.mapM (decodeScalar S))
  let verifyingKey ← orBail "decode ResponseDeviceInforWire verifying_key failed" (S.pointOf wire.verifyingKey)
  let sig ← wire.sig.mapM (decodeSignature S)
  pure
    { verifyingKey, attesterAddr := wire.attesterAddr, timestamp := wire.timestamp, period := wire.period,
      sig, shrubsPath, shrubsTag := wire.shrubsTag }

def appendPathBytes (path : List Bytes) : Bytes := toBeBytes 8 path.length ++ path.flatMap appendLenBytes

def encodeResponseDeviceInforWire (value : ResponseDeviceInforWire) : Bytes :=
  appendLenBytes value.verifyingKey ++
  appendString value.attesterAddr ++
  appendDuration value.timestamp ++
  appendDuration value.period ++
  appendOption appendLenBytes value.sig ++
  appendOption appendPathBytes value.shrubsPath ++
  appendOption appendBoolVec value.shrubsTag

def encodeResponseDeviceInfor (value : ResponseDeviceInfor S) : Bytes :=
  encodeResponseDeviceInforWire (responseDeviceInforToWire S value)

/-- A byte vector takes 24 bytes of memory besides its contents. -/
def readPathBytes : Reader (List Bytes) := do
  let len ← readU64
  reserve isizeMax (24 * len)
  Wire.replicate readLenBytes len

def readResponseDeviceInforWire : Reader ResponseDeviceInforWire := do
  let verifyingKey ← readLenBytes
  let attesterAddr ← readString
  let timestamp ← readDuration
  let period ← readDuration
  let sig ← readOption (fun other => s!"Option<Signature bytes> tag invalid: {other}") readLenBytes
  let shrubsPath ← readOption (fun other => s!"Option<Vec<Vec<u8>>> tag invalid: {other}") readPathBytes
  let shrubsTag ← readOption (fun other => s!"Option<Vec<bool>> 闁哄秴娲╅鍥閻愬銆? {other}")
    (readBoolVec fun b => s!"invalid bool field: {b}")
  pure { verifyingKey, attesterAddr, timestamp, period, sig, shrubsPath, shrubsTag }

def decodeResponseDeviceInforWire (bytes : Bytes) : Outcome ResponseDeviceInforWire :=
  Wire.decode readResponseDeviceInforWire bytes

def decodeResponseDeviceInfor (bytes : Bytes) : Outcome (ResponseDeviceInfor S) := do
  let wire ← decodeResponseDeviceInforWire bytes
  responseDeviceInforFromWire S wire

def encodePublicContext (value : PublicContext S) : Bytes :=
  appendScalarVec S value.root ++ appendVerifyingKey S value.verifierPk

def readPublicContext : Reader (PublicContext S) := do
  let root ← readScalarVec S
  let verifierPk ← readVerifyingKey S
  pure { root, verifierPk }

def decodePublicContext (bytes : Bytes) : Outcome (PublicContext S) := Wire.decode (readPublicContext S) bytes

def encodeVerifierResponse (devRes : ResponseDeviceInfor S) (publicContext : PublicContext S) : Bytes :=
  appendLenBytes (encodeResponseDeviceInfor S devRes) ++ appendLenBytes (encodePublicContext S publicContext)

def readVerifierResponse : Reader (Bytes × Bytes) := do
  let devResBytes ← readLenBytes
  let publicContextBytes ← readLenBytes
  pure (devResBytes, publicContextBytes)

def decodeVerifierResponse (bytes : Bytes) : Outcome (ResponseDeviceInfor S × PublicContext S) := do
  let halves ← Wire.decode readVerifierResponse bytes
  let devRes ← decodeResponseDeviceInfor S halves.1
  let publicContext ← decodePublicContext S halves.2
  pure (devRes, publicContext)

end Responses

section Evidence
variable (S : Suite)

def encodeEvidenceBundle (evidenceReply : EvidenceReply S) (deviceSignature : S.Signature) : Bytes :=
  appendProof S evidenceReply.proof ++
  appendArkVk S evidenceReply.vk ++
  appendSignature S evidenceReply.sig ++
  appendVerifyingKey S evidenceReply.pk ++
  appendDuration evidenceReply.timestamp ++
  appendDuration evidenceReply.period ++
  appendScalar S evidenceReply.authorizedInfor ++
  appendDuration evidenceReply.timestampAttester ++
  appendDuration evidenceReply.periodAttester ++
  appendSignature S evidenceReply.proofTimestampPeriodSignature ++
  appendSignature S deviceSignature

def readEvidenceBundle : Reader (EvidenceReply S × S.Signature) := do
  let proof ← readProof S
  let vk ← readArkVk S
  let sig ← readSignature S
  let pk ← readVerifyingKey S
  let timestamp ← readDuration
  let period ← readDuration
  let authorizedInfor ← readScalar S
  let timestampAttester ← readDuration
  let periodAttester ← readDuration
  let proofTimestampPeriodSignature ← readSignature S
  let deviceSignature ← readSignature S
  let evidenceReply : EvidenceReply S :=
    { proof, vk, sig, pk, timestamp, period, authorizedInfor, timestampAttester, periodAttester,
      proofTimestampPeriodSignature }
  pure (evidenceReply, deviceSignature)

def decodeEvidenceBundle (bytes : Bytes) : Outcome (EvidenceReply S × S.Signature) :=
  Wire.decode (readEvidenceBundle S) bytes

end Evidence

section Encryption
variable (S : Suite)

def encodeEncryptedMessage (value : EncryptedMessage) : Bytes :=
  appendLenBytes value.ephemeralPublicKey ++ appendLenBytes value.nonce ++ appendLenBytes value.ciphertext

def readEncryptedMessage : Reader EncryptedMessage := do
  let ephemeralPublicKey ← readLenBytes
  let nonce ← readLenBytes
  let ciphertext ← readLenBytes
  pure { ephemeralPublicKey, nonce, ciphertext }

def decodeEncryptedMessage (bytes : Bytes) : Outcome EncryptedMessage := Wire.decode readEncryptedMessage bytes

def deriveAesKey (sharedSecret : Bytes) : Bytes :=
  S.hkdf sharedSecret (utf8 "hydra verifier response encryption")

def encryptForDevicePubkey (draw : Draw S) (plaintext : Bytes) (devicePubkey : S.VerifyingKey) :
    Outcome EncryptedMessage := do
  let recipientPublicKey ←
    orBail "decode device public key for encryption failed" (S.pointOf (S.pointBytes devicePubkey))
  let key := deriveAesKey S (S.diffieHellman draw.ephemeral recipientPublicKey)
  let ciphertext ← orBail "encrypt verifier response failed" (S.aesEncrypt key draw.nonce plaintext)
  pure ⟨S.pointBytes (S.verifyingKey draw.ephemeral), draw.nonce, ciphertext⟩

def decryptForDeviceKey (encrypted : EncryptedMessage) (deviceKey : KeyInfor S) : Outcome Bytes := do
  let ephemeralPublicKey ←
    orBail "decode verifier ephemeral public key failed" (S.pointOf encrypted.ephemeralPublicKey)
  let secretKey ←
    orBail "load device secret key for decryption failed" (S.keyOf (S.keyBytes deviceKey.signingKey))
  let key := deriveAesKey S (S.diffieHellman secretKey ephemeralPublicKey)
  -- a nonce slice of another length panics
  if encrypted.nonce.length = 12 then
    orBail "decrypt verifier response failed" (S.aesDecrypt key encrypted.nonce encrypted.ciphertext)
  else .error .panic

def encodeEncryptedVerifierResponse (draw : Draw S) (devRes : ResponseDeviceInfor S)
    (publicContext : PublicContext S) (devicePubkey : S.VerifyingKey) : Outcome Bytes := do
  let plaintext := encodeVerifierResponse S devRes publicContext
  let encrypted ← encryptForDevicePubkey S draw plaintext devicePubkey
  pure (encodeEncryptedMessage encrypted)

def decodeEncryptedVerifierResponse (bytes : Bytes) (deviceKey : KeyInfor S) :
    Outcome (ResponseDeviceInfor S × PublicContext S) := do
  let encrypted ← decodeEncryptedMessage bytes
  let plaintext ← decryptForDeviceKey S encrypted deviceKey
  decodeVerifierResponse S plaintext

end Encryption

section Typed
variable (S : Suite)

def msgDeviceInfor : Bytes := utf8 "DINF"

def msgPublicContext : Bytes := utf8 "PUBC"

def msgEvidence : Bytes := utf8 "EVID"

def startsWith (bytes kind : Bytes) : Bool := kind.isPrefixOf bytes

/-- `message.get(..4)` as it is printed. -/
def debugFront (message : Bytes) : String :=
  if message.length < 4 then "None" else "Some(" ++ toString (message.take 4) ++ ")"

def encodeTypedMessage (kind payload : Bytes) : Bytes := kind ++ payload

def encodePublicContextMessage (publicContext : PublicContext S) : Bytes :=
  encodeTypedMessage msgPublicContext (encodePublicContext S publicContext)

def decodePublicContextMessage (bytes : Bytes) : Outcome (PublicContext S) :=
  if startsWith bytes msgPublicContext then decodePublicContext S (bytes.drop msgPublicContext.length)
  else bail "not a PublicContext message"

def encodeEvidenceMessage (evidenceReply : EvidenceReply S) (deviceSignature : S.Signature) : Bytes :=
  encodeTypedMessage msgEvidence (encodeEvidenceBundle S evidenceReply deviceSignature)

def decodeEvidenceMessage (bytes : Bytes) : Outcome (EvidenceReply S × S.Signature) :=
  if startsWith bytes msgEvidence then decodeEvidenceBundle S (bytes.drop msgEvidence.length)
  else bail "not an Evidence message"

end Typed

/-- `MAX_TCP_FRAME_LEN`. -/
def maxTcpFrameLen : Nat := 512 * 1024 * 1024

/-- The payload of a frame that has arrived whole; its length is refused above the limit. -/
def tcpReadFrame (payload : Bytes) : Outcome Bytes :=
  if maxTcpFrameLen < payload.length then bail s!"TCP frame too large: {payload.length} bytes" else .ok payload

end UnifiedAttestation.Toolkit
