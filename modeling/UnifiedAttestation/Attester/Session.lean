import UnifiedAttestation.Attester.Circuit
import UnifiedAttestation.Toolkit.Submissions

/-! The attester's client: the session directory it keeps from the frames of the
verifier, and the evidence it builds from a stored session.

Writing a file succeeds. The files are modelled as the bytes last written to them.
-/

set_option autoImplicit false

namespace UnifiedAttestation.Attester

open Wire (Bytes Outcome Reader Reads toBeBytes utf8 fromUtf8 bail orBail orPanic context)
open Gadgets (System)
open Shrubs (MembershipCheck)
open Toolkit

section Config
variable (S : Suite)

structure DeviceConfigInfor where
  signingKey : S.SigningKey
  verifyingKey : S.VerifyingKey
  measuredValue : S.Scalar
  timestamp : Duration
  period : Duration
  merkleLeaf : S.Scalar
  merklePath : Option (List S.Scalar)
  merkleTag : Option (List Bool)
  authorizedInfor : S.Scalar
  signature : Option S.Signature

def DeviceConfigInfor.new (devKey : KeyInfor S) (devCli : DeviceClientInfor S) (decRes : ResponseDeviceInfor S) :
    DeviceConfigInfor S :=
  let pk := scalarOfPoint S devKey.verifyingKey
  let ar := scalarOfText S devCli.measuredValue
  let time := S.ofNat decRes.timestamp.secs
  let peri := S.ofNat decRes.period.secs
  let output := generateVerifierAuthoriedInfor S ar pk time peri
  { signingKey := devKey.signingKey
    verifyingKey := devKey.verifyingKey
    measuredValue := ar
    timestamp := decRes.timestamp
    period := decRes.period
    merkleLeaf := devCli.merkleLeaf
    merklePath := decRes.shrubsPath
    merkleTag := decRes.shrubsTag
    authorizedInfor := output
    signature := decRes.sig }

def AttestationCircuit.new (deviceConfig : DeviceConfigInfor S) (root : List S.Scalar) (path : Option (List S.Scalar))
    (tag : Option (List Bool)) : AttestationCircuit S where
  pk := scalarOfPoint S deviceConfig.verifyingKey
  sk := scalarOfKey S deviceConfig.signingKey
  ar := deviceConfig.measuredValue
  time := S.ofNat deviceConfig.timestamp.secs
  period := S.ofNat deviceConfig.period.secs
  output := deviceConfig.authorizedInfor
  root := root
  path := path
  tag := tag

end Config

section Files
variable (S : Suite)

/-- The bytes that `save_device_config_infor` writes. -/
def encodeDeviceConfigInfor (value : DeviceConfigInfor S) : Bytes :=
  appendLenBytes (S.keyBytes value.signingKey) ++
  appendVerifyingKey S value.verifyingKey ++
  appendScalar S value.measuredValue ++
  appendDuration value.timestamp ++
  appendDuration value.period ++
  appendScalar S value.merkleLeaf ++
  appendOption (appendScalarVec S) value.merklePath ++
  appendOption appendBoolVec value.merkleTag ++
  appendScalar S value.authorizedInfor ++
  appendOption (appendSignature S) value.signature

def decodeSecretKey (skBytes : Bytes) : Outcome S.SigningKey :=
  if skBytes.length = 32 then orBail "decode DeviceConfigInfor secret key failed" (S.keyOf skBytes)
  else bail s!"secp256k1 secret key length must be 32 bytes, got {skBytes.length}"

def readDeviceConfigInfor : Reader (DeviceConfigInfor S) := do
  let skBytes ← readLenBytes
  let signingKey ← decodeSecretKey S skBytes
  let verifyingKey ← readVerifyingKey S
  let measuredValue ← readScalar S
  let timestamp ← readDuration
  let period ← readDuration
  let merkleLeaf ← readScalar S
  let merklePath ← readOption (fun other => s!"invalid Option<Vec<BlsScalar>> tag: {other}") (readScalarVec S)
  let merkleTag ← readOption (fun other => s!"invalid Option<Vec<bool>> tag: {other}")
    (readBoolVec fun other => s!"invalid bool value: {other}")
  let authorizedInfor ← readScalar S
  let signature ← readOption (fun other => s!"invalid Option<Signature> tag: {other}") (readSignature S)
  pure
    { signingKey, verifyingKey, measuredValue, timestamp, period, merkleLeaf, merklePath, merkleTag,
      authorizedInfor, signature }

def loadDeviceConfigInfor (file : Option Bytes) : Outcome (DeviceConfigInfor S) := do
  let bytes ← orBail "read DeviceConfigInfor failed" file
  Wire.decode (readDeviceConfigInfor S) bytes

def loadPublicContext (file : Option Bytes) : Outcome (PublicContext S) := do
  let bytes ← orBail "read PublicContext failed" file
  Wire.decode (readPublicContext S) bytes

variable {S}

def DeviceConfigInfor.Held (value : DeviceConfigInfor S) : Prop :=
  ∀ path ∈ value.merklePath, 32 * path.length ≤ isizeMax

variable (trips : S.RoundTrips)
include trips

theorem readDeviceConfigInfor_reads {value : DeviceConfigInfor S}
    (fits : (encodeDeviceConfigInfor S value).length ≤ isizeMax) (held : value.Held) :
    Reads (readDeviceConfigInfor S) (encodeDeviceConfigInfor S value) value := by
  have bound := fits
  simp only [encodeDeviceConfigInfor, List.length_append] at bound
  have paths : ∀ held ∈ value.merklePath, (appendScalarVec S held).length ≤ isizeMax :=
    length_of_appendOption _ _ (by omega)
  have tags : ∀ held ∈ value.merkleTag, (appendBoolVec held).length ≤ isizeMax :=
    length_of_appendOption _ _ (by omega)
  have sigs : ∀ held ∈ value.signature, (appendSignature S held).length ≤ isizeMax :=
    length_of_appendOption _ _ (by omega)
  have secret : decodeSecretKey S (S.keyBytes value.signingKey) = .ok value.signingKey := by
    rw [decodeSecretKey, if_pos (trips.keyLength _), trips.key]
    rfl
  simp only [encodeDeviceConfigInfor, List.append_assoc]
  refine (readLenBytes_reads (by omega)).bind ?_
  refine Reads.lift_bind secret ?_
  refine (readVerifyingKey_reads trips (by omega)).bind ?_
  refine (readScalar_reads trips (by omega)).bind ?_
  refine (readDuration_reads value.timestamp).bind ?_
  refine (readDuration_reads value.period).bind ?_
  refine (readScalar_reads trips (by omega)).bind ?_
  refine (readOption_reads _ fun path member => readScalarVec_reads trips (paths path member) (held path member)).bind ?_
  refine (readOption_reads _ fun held member => readBoolVec_reads _ (tags held member)).bind ?_
  refine (readScalar_reads trips (by omega)).bind ?_
  exact (readOption_reads _ fun held member => readSignature_reads trips (sigs held member)).bind_end
    (Reads.pure value)

theorem loadDeviceConfigInfor_encode {value : DeviceConfigInfor S}
    (fits : (encodeDeviceConfigInfor S value).length ≤ isizeMax) (held : value.Held) :
    loadDeviceConfigInfor S (some (encodeDeviceConfigInfor S value)) = .ok value := by
  rw [loadDeviceConfigInfor, Wire.orBail_some, Wire.ok_bind]
  exact (readDeviceConfigInfor_reads trips fits held).decode

theorem loadPublicContext_encode {value : PublicContext S}
    (fits : (encodePublicContext S value).length ≤ isizeMax) (held : value.Held) :
    loadPublicContext S (some (encodePublicContext S value)) = .ok value :=
  decodePublicContext_encode trips fits held

end Files

section Updates
variable (S : Suite)

/-- The second byte may be narrower than a continuation byte, so that no character
has two encodings and none is a surrogate. -/
def secondByte (first : UInt8) : UInt8 × UInt8 :=
  if first = 0xE0 then (0xA0, 0xBF)
  else if first = 0xED then (0x80, 0x9F)
  else if first = 0xF0 then (0x90, 0xBF)
  else if first = 0xF4 then (0x80, 0x8F)
  else (0x80, 0xBF)

/-- How many bytes follow the first byte of a character; some start none. -/
def continuations (first : UInt8) : Option Nat :=
  if first < 0x80 then some 0
  else if 0xC2 ≤ first ∧ first ≤ 0xDF then some 1
  else if 0xE0 ≤ first ∧ first ≤ 0xEF then some 2
  else if 0xF0 ≤ first ∧ first ≤ 0xF4 then some 3
  else none

/-- `String::from_utf8_lossy`: the longest start of a broken character becomes U+FFFD. -/
def fromUtf8Lossy : Nat → Bytes → String
  | 0, _ => ""
  | _ + 1, [] => ""
  | fuel + 1, first :: rest =>
    match continuations first with
    | none => "\uFFFD" ++ fromUtf8Lossy fuel rest
    | some count =>
      let ranges := (secondByte first :: List.replicate 2 (0x80, 0xBF)).take count
      let valid := ((rest.zip ranges).takeWhile fun (byte, low, high) => low ≤ byte ∧ byte ≤ high).length
      let text := if valid = count then (fromUtf8 (first :: rest.take count)).getD "" else "\uFFFD"
      text ++ fromUtf8Lossy fuel (rest.drop valid)

/-- The files of a session directory; the copy of the response is read by nobody. -/
inductive SessionFile where
  | devRes
  | publicContext
  | devConfig
  deriving DecidableEq, Repr

abbrev SessionDir := SessionFile → Option Bytes

def SessionDir.empty : SessionDir := fun _ => none

def SessionDir.save (session : SessionDir) (files : List (SessionFile × Bytes)) : SessionDir :=
  files.foldl (fun session file => Function.update session file.1 (some file.2)) session

/-- The files that a frame of the verifier makes the attester write, in this order. -/
def readResponse (devKey : KeyInfor S) (devInfor : DeviceClientInfor S) (payload : Bytes) :
    Outcome (List (SessionFile × Bytes)) := do
  let bytes ← context "read verifier update failed" (tcpReadFrame payload)
  if startsWith bytes (utf8 "verification failed:") || startsWith bytes (utf8 "error:") then
    bail ("verifier rejected DeviceClientInfor: " ++ fromUtf8Lossy bytes.length bytes)
  else if startsWith bytes msgPublicContext then do
    let ctx ← context "decode PublicContext failed" (decodePublicContextMessage S bytes)
    pure [(.publicContext, encodePublicContext S ctx)]
  else do
    let (devRes, publicContext) ← context "decrypt verifier response failed"
      (decodeEncryptedVerifierResponse S bytes devKey)
    let devConfig := DeviceConfigInfor.new S devKey devInfor devRes
    pure
      [(.devRes, encodeResponseDeviceInfor S devRes), (.publicContext, encodePublicContext S publicContext),
        (.devConfig, encodeDeviceConfigInfor S devConfig)]

def readResponseAndPersist (devKey : KeyInfor S) (devInfor : DeviceClientInfor S) (session : SessionDir)
    (payload : Bytes) : Outcome SessionDir :=
  (readResponse S devKey devInfor payload).map session.save

/-- The update loop, which stops at the first frame that fails. -/
def follow (devKey : KeyInfor S) (devInfor : DeviceClientInfor S) : SessionDir → List Bytes → SessionDir
  | session, [] => session
  | session, payload :: rest =>
    match readResponseAndPersist S devKey devInfor session payload with
    | .ok session => follow devKey devInfor session rest
    | .error _ => session

/-- The session directory after the frames that have arrived so far. -/
def run (devKey : KeyInfor S) (devInfor : DeviceClientInfor S) : List Bytes → Outcome SessionDir
  | [] => .ok SessionDir.empty
  | payload :: rest => do
    let session ← context "read initial hydra response failed"
      (readResponseAndPersist S devKey devInfor SessionDir.empty payload)
    pure (follow S devKey devInfor session rest)

end Updates

section Frames
variable {S : Suite}

theorem startsWith_head {bytes kind : Bytes} {b k : UInt8} (first : bytes.head? = some b)
    (front : kind.head? = some k) (different : b ≠ k) : startsWith bytes kind = false := by
  rw [Bool.eq_false_iff]
  intro starts
  obtain ⟨rest, rfl⟩ := List.isPrefixOf_iff_prefix.mp starts
  cases kind with
  | nil => cases front
  | cons byte kind =>
    rw [List.cons_append, List.head?_cons] at first
    rw [List.head?_cons] at front
    exact different (Option.some.inj (first.symm.trans front))

/-- A length below 2^56 has a first byte that no text starts with. -/
theorem appendLenBytes_head {bytes : Bytes} (short : bytes.length < 256 ^ 7) (rest : Bytes) :
    (appendLenBytes bytes ++ rest).head? = some 0 := by
  rw [appendLenBytes, toBeBytes, Nat.div_eq_of_lt short]
  rfl

theorem tcpReadFrame_short {payload : Bytes} (short : payload.length ≤ maxTcpFrameLen) :
    tcpReadFrame payload = .ok payload := if_neg (Nat.not_lt.mpr short)

variable (trips : S.RoundTrips) (devKey : KeyInfor S) (devInfor : DeviceClientInfor S)
include trips

/-- A refreshed context replaces the stored one and nothing else. -/
theorem readResponse_context {publicContext : PublicContext S}
    (short : (encodePublicContextMessage S publicContext).length ≤ maxTcpFrameLen) :
    readResponse S devKey devInfor (encodePublicContextMessage S publicContext) =
      .ok [(.publicContext, encodePublicContext S publicContext)] := by
  have front : (encodePublicContextMessage S publicContext).head? = some 80 := rfl
  have failed : startsWith (encodePublicContextMessage S publicContext) (utf8 "verification failed:") = false :=
    startsWith_head front (k := 118) (by decide) (by decide)
  have error : startsWith (encodePublicContextMessage S publicContext) (utf8 "error:") = false :=
    startsWith_head front (k := 101) (by decide) (by decide)
  have typed : startsWith (encodePublicContextMessage S publicContext) msgPublicContext = true :=
    startsWith_typed _ _
  have inside : (encodePublicContext S publicContext).length ≤ maxTcpFrameLen := by
    simp only [encodePublicContextMessage, encodeTypedMessage, List.length_append] at short
    omega
  have decoded := decodePublicContextMessage_encode trips (Nat.le_trans short (by decide))
    (publicContext_held_of_short inside)
  simp only [readResponse, tcpReadFrame_short short, Wire.context_ok, Wire.ok_bind, failed, error, typed, decoded,
    Bool.or_self, Bool.false_eq_true, if_false, if_true]
  rfl

/-- A response that was encrypted for the device's key replaces all files. -/
theorem readResponse_response (cipher : S.CipherComplete) {draw : Draw S} {devRes : ResponseDeviceInfor S}
    {publicContext : PublicContext S} {frame : Bytes}
    (sent : encodeEncryptedVerifierResponse S draw devRes publicContext devKey.verifyingKey = .ok frame)
    (short : frame.length ≤ maxTcpFrameLen) :
    readResponse S devKey devInfor frame =
      .ok [(.devRes, encodeResponseDeviceInfor S devRes), (.publicContext, encodePublicContext S publicContext),
        (.devConfig, encodeDeviceConfigInfor S (DeviceConfigInfor.new S devKey devInfor devRes))] := by
  have held := held_of_short ((encodeVerifierResponse_length_le trips cipher sent).trans short)
  have decoded := decodeEncryptedVerifierResponse_encode trips cipher sent (Nat.le_trans short (by decide)) held.1
    held.2
  have front : frame.head? = some 0 := by
    obtain ⟨encrypted, -, made⟩ := Wire.bind_eq_ok.mp sent
    obtain rfl := Except.ok.inj made
    simp only [encodeEncryptedMessage, List.length_append, appendLenBytes_length, maxTcpFrameLen] at short
    rw [encodeEncryptedMessage, List.append_assoc]
    exact appendLenBytes_head (by omega) _
  have failed : startsWith frame (utf8 "verification failed:") = false :=
    startsWith_head front (k := 118) (by decide) (by decide)
  have error : startsWith frame (utf8 "error:") = false := startsWith_head front (k := 101) (by decide) (by decide)
  have typed : startsWith frame msgPublicContext = false := startsWith_head front (k := 80) (by decide) (by decide)
  simp only [readResponse, tcpReadFrame_short short, Wire.context_ok, Wire.ok_bind, failed, error, typed, decoded,
    Bool.or_self, Bool.false_eq_true, if_false]
  rfl

end Frames

section Evidence
variable (S : Suite)

/-- The seeds are the randomness of the setup and of the proof. -/
def generateDeviceEvidenceFromConfig (seed seed' : Nat) (now : Option Duration) (root : List S.Scalar)
    (devConfig : DeviceConfigInfor S) : Outcome (EvidenceReply S × S.Signature) := do
  let circuit := AttestationCircuit.new S devConfig root devConfig.merklePath devConfig.merkleTag
  let system ← orPanic (synthesize circuit).toOption
  let (pkk, vk) := S.setup seed system.shape
  let proof ← orPanic (S.prove seed' pkk system)
  let verifierSignature ← orPanic devConfig.signature
  let evidenceReply ← EvidenceReply.new S now proof vk verifierSignature devConfig.verifyingKey devConfig.timestamp
    devConfig.period devConfig.authorizedInfor devConfig.signingKey
  let signature := S.sign devConfig.signingKey evidenceReply.toSigningBytesAllFields
  pure (evidenceReply, signature)

/-- The frame that is sent to every relying party. -/
def sendEvidenceFromSession (seed seed' : Nat) (now : Option Duration) (session : SessionDir) : Outcome Bytes := do
  let devConfig ← context "load DeviceConfigInfor failed; run the attester daemon first"
    (loadDeviceConfigInfor S (session .devConfig))
  let publicContext ← context "load PublicContext failed; run the attester daemon first"
    (loadPublicContext S (session .publicContext))
  let (reply, sig) ← generateDeviceEvidenceFromConfig S seed seed' now publicContext.root devConfig
  pure (encodeEvidenceMessage S reply sig)

variable {S}

/-- A stored configuration that opens a leaf under the roots, carries its authorized
information and the verifier's signature makes evidence, whatever is drawn. -/
theorem generateDeviceEvidenceFromConfig_succeeds (groth : S.GrothComplete) {root : List S.Scalar}
    {devConfig : DeviceConfigInfor S} {circuit : AttestationCircuit S} {sig : S.Signature}
    (built : circuit = AttestationCircuit.new S devConfig root devConfig.merklePath devConfig.merkleTag)
    (rooted : root ≠ []) (checks : MembershipCheck S.hash root circuit.leaf (circuit.path, circuit.tag))
    (authorized : S.hash (S.hash (S.hash circuit.pk circuit.ar) circuit.time) circuit.period = circuit.output)
    (signed : devConfig.signature = some sig) (seed seed' : Nat) (now : Duration) :
    ∃ proof vk reply, EvidenceReply.new S (some now) proof vk sig devConfig.verifyingKey devConfig.timestamp
        devConfig.period devConfig.authorizedInfor devConfig.signingKey = .ok reply ∧
      generateDeviceEvidenceFromConfig S seed seed' (some now) root devConfig =
        .ok (reply, S.sign devConfig.signingKey reply.toSigningBytesAllFields) ∧
      (∃ system, synthesize circuit = .ok system ∧ reply.genPublicInputs root = system.inputs) ∧
      S.verifyProof vk (reply.genPublicInputs root) proof = some true := by
  subst built
  have whole := (synthesize_satisfied_iff (c := AttestationCircuit.new S devConfig root devConfig.merklePath
    devConfig.merkleTag) rooted).mpr ⟨checks, authorized⟩
  obtain ⟨system, synthesized, satisfied⟩ := whole
  obtain ⟨proof, proved, verified⟩ := groth.proves seed seed' system satisfied
  -- the inputs of the system are those of the circuit, in the order of their allocation
  have inputs := synthesized
  rw [synthesize_eq rooted, if_pos (membershipCheck_paired checks)] at inputs
  obtain rfl := Except.ok.inj inputs
  refine ⟨proof, _, _, rfl, ?_, ⟨_, synthesized, rfl⟩, verified⟩
  simp only [generateDeviceEvidenceFromConfig, synthesized, Except.toOption, Wire.orPanic_some, Wire.ok_bind, proved,
    signed]
  rfl

end Evidence

end UnifiedAttestation.Attester
