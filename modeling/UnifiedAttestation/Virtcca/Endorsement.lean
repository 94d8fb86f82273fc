import UnifiedAttestation.Virtcca.Verify

/-! Which key an accepted token was signed with, and what ties it to the device.

The certificate chain is always checked. The key of the token is tied to the device only
by a platform token that states a challenge, or where it is the key of the certificate.
-/

set_option autoImplicit false

namespace UnifiedAttestation.Virtcca

open Wire (Bytes Outcome)

variable {K : Crates}

section Endorsed

/-- The certificate of the device, the one below the root and the configured root. -/
structure Chained (K : Crates) (devCert : K.X509) : Prop where
  links : ∃ rootCertPath subCertPath subCert rootCert subKey rootKey,
    detectCertPath K devCert = .ok (rootCertPath, subCertPath) ∧
    loadCert K "sub" subCertPath = .ok subCert ∧ loadCert K "root" rootCertPath = .ok rootCert ∧
    K.publicKey subCert = .ok subKey ∧ K.publicKey rootCert = .ok rootKey ∧
    K.verify devCert subKey = .ok true ∧ K.verify subCert rootKey = .ok true ∧ K.verify rootCert rootKey = .ok true

/-- The evidence has a platform token whose payload is the given map. -/
def PlatformPayload (evidence : Evidence K) (entries : List (Cbor × Cbor)) : Prop :=
  evidence.isPlatform = true ∧ K.fromReader (K.payload evidence.platformEnvelop) = .ok (.map entries)

/-- A platform token that is signed with the key of the certificate carries the hash of the
key of the machine as its challenge. -/
def CarriesKeyHash (evidence : Evidence K) (devCert : K.X509) : Prop :=
  ∃ entries devKey digest hash, PlatformPayload evidence entries ∧ K.publicKey devCert = .ok devKey ∧
    verifyCoseSign1 K evidence.platformEnvelop devKey = .ok () ∧
    digestOf evidence.cvmToken.pubKeyHashAlg = some digest ∧ K.hash digest evidence.cvmToken.pubKey = .ok hash ∧
    lastUnder 10 entries = some (.bytes hash)

/-- The certified device stands behind the key. -/
structure Endorsed (evidence : Evidence K) (devCert : K.X509) (key : K.PKey) : Prop where
  chained : Chained K devCert
  bound : CarriesKeyHash evidence devCert ∨ K.publicKey devCert = .ok key

/-- There is a platform token and it states a challenge. -/
def StatesChallenge (evidence : Evidence K) : Prop :=
  ∃ entries, PlatformPayload evidence entries ∧ (lastUnder 10 entries).isSome = true

/-- The parts of evidence, and the key that its token was verified with. -/
structure Verified (K : Crates) (bytes : Bytes) (evidence : Evidence K) (devCert : K.X509) (key : K.PKey) : Prop where
  parts : ∃ virtccaEv, K.fromSlice bytes = .ok virtccaEv ∧ Evidence.decode K virtccaEv.evidence = .ok evidence ∧
    evidence.parseDevCert virtccaEv.devCert = .ok devCert
  keyed : cvmKey K evidence.cvmToken = .ok key
  signed : verifyCoseSign1 K evidence.cvmEnvelop key = .ok ()

end Endorsed

section Checks

theorem verifyDevCertChain_chained {devCert : K.X509} (verified : verifyDevCertChain K devCert = .ok ()) :
    Chained K devCert := by
  simp only [verifyDevCertChain, Wire.bind_eq_ok, Wire.ensure_eq_ok] at verified
  obtain ⟨⟨rootCertPath, subCertPath⟩, paths, subCert, sub, rootCert, root, subKey, subPublic, bySub, devSigned, _,
    rfl, rootKey, rootPublic, byRoot, subSigned, _, rfl, bySelf, rootSigned, rfl⟩ := verified
  exact ⟨⟨rootCertPath, subCertPath, subCert, rootCert, subKey, rootKey, paths, sub, root, subPublic, rootPublic,
    devSigned, subSigned, rootSigned⟩⟩

theorem verfiyCvmChallenge_hash {evidence : Evidence K} {challenge rawPubKey : Bytes}
    (verified : evidence.verfiyCvmChallenge challenge rawPubKey = .ok ()) :
    ∃ digest, digestOf evidence.cvmToken.pubKeyHashAlg = some digest ∧ K.hash digest rawPubKey = .ok challenge := by
  simp only [Evidence.verfiyCvmChallenge, Wire.bind_eq_ok, Wire.orBail_eq_ok, Wire.ensure_eq_ok] at verified
  obtain ⟨digest, named, _, hashed, rfl⟩ := verified
  exact ⟨digest, named, hashed⟩

/-- The platform token of decoded evidence is what its envelope holds. -/
theorem decode_platform {rawEvidence : Bytes} {evidence : Evidence K}
    (decoded : Evidence.decode K rawEvidence = .ok evidence) (platform : evidence.isPlatform = true) :
    decodePlatformToken K (K.payload evidence.platformEnvelop) = .ok evidence.platformToken := by
  simp only [Evidence.decode, Wire.bind_eq_ok] at decoded
  obtain ⟨_, _, start, _, _, _, _, _, last⟩ := decoded
  unfold Evidence.decodePlatform at last
  split at last
  · simp only [Wire.bind_eq_ok] at last
    obtain ⟨platformEnvelop, _, platformToken, token, same⟩ := last
    cases same
    exact token
  · rename_i absent
    cases last
    exact absurd platform absent

/-- A challenge of a platform token that no label states stays at zeros. -/
theorem platformToken_challenge {evidence : Evidence K}
    (decoded : decodePlatformToken K (K.payload evidence.platformEnvelop) = .ok evidence.platformToken)
    (platform : evidence.isPlatform = true) :
    ∃ entries, PlatformPayload evidence entries ∧
      (lastUnder 10 entries = some (.bytes evidence.platformToken.challenge) ∨ lastUnder 10 entries = none) := by
  obtain ⟨payload, read, token⟩ := Wire.bind_eq_ok.mp decoded
  obtain ⟨entries, rfl, stated | ⟨absent, _⟩⟩ := PlatformToken.decode_challenge token
  · exact ⟨entries, ⟨platform, read⟩, .inl stated⟩
  · exact ⟨entries, ⟨platform, read⟩, .inr absent⟩

theorem PlatformPayload.unique {evidence : Evidence K} {entries entries' : List (Cbor × Cbor)}
    (payload : PlatformPayload evidence entries) (payload' : PlatformPayload evidence entries') :
    entries = entries' := by
  have same := payload.2.symm.trans payload'.2
  simpa using same

end Checks

section Accepted

/-- What accepted evidence went through. -/
theorem evaluate_verified {userData bytes : Bytes} {claim : TeeClaim} (accepted : evaluate K userData bytes = .ok claim) :
    ∃ evidence devCert key, Verified K bytes evidence devCert key ∧ Chained K devCert ∧
      (evidence.isPlatform = true →
        decodePlatformToken K (K.payload evidence.platformEnvelop) = .ok evidence.platformToken ∧
        evidence.verifyPlatformSign1 devCert = .ok () ∧ evidence.verifyCvmPubKey = .ok ()) := by
  simp only [evaluate, Evidence.verify, Evidence.verifyRead, Evidence.verifyPlatformToken, Evidence.verifyCvmToken, Wire.bind_eq_ok] at accepted
  obtain ⟨_, _, _, _, virtccaEv, parsed, evidence, decoded, devCert, cert, _, ⟨_, chain, platformSigned⟩, _,
    ⟨_, _, _, _, _, bound, key, keyed, _, signed, _⟩, _⟩ := accepted
  exact ⟨evidence, devCert, key, ⟨⟨virtccaEv, parsed, decoded, cert⟩, keyed, signed⟩, verifyDevCertChain_chained chain,
    fun platform => ⟨decode_platform decoded platform, platformSigned, bound⟩⟩

/-- A platform token that states a challenge states the hash of the key. -/
theorem statesChallenge_carries {evidence : Evidence K} {devCert : K.X509} (states : StatesChallenge evidence)
    (decoded : decodePlatformToken K (K.payload evidence.platformEnvelop) = .ok evidence.platformToken)
    (platformSigned : evidence.verifyPlatformSign1 devCert = .ok ()) (bound : evidence.verifyCvmPubKey = .ok ()) :
    CarriesKeyHash evidence devCert := by
  obtain ⟨entries, payload, stated⟩ := states
  obtain ⟨entries', payload', held | absent⟩ := platformToken_challenge decoded payload.1
  · cases payload.unique payload'
    rw [Evidence.verifyPlatformSign1, if_pos payload.1] at platformSigned
    rw [Evidence.verifyCvmPubKey, if_pos payload.1] at bound
    obtain ⟨devKey, devPublic, signed⟩ := Wire.bind_eq_ok.mp platformSigned
    obtain ⟨digest, named, hashed⟩ := verfiyCvmChallenge_hash bound
    exact ⟨entries, devKey, digest, _, payload, devPublic, signed, named, hashed, held⟩
  · cases payload.unique payload'
    simp [absent] at stated

/-- The key that an accepted token was signed with is endorsed by the device exactly when
a platform token states a challenge or the key is that of the device certificate. -/
theorem token_key_endorsed_iff {userData bytes : Bytes} {claim : TeeClaim}
    (accepted : evaluate K userData bytes = .ok claim) :
    ∃ evidence devCert key, Verified K bytes evidence devCert key ∧
      (Endorsed evidence devCert key ↔ StatesChallenge evidence ∨ K.publicKey devCert = .ok key) := by
  obtain ⟨evidence, devCert, key, verified, chained, platform⟩ := evaluate_verified accepted
  refine ⟨evidence, devCert, key, verified, ?_⟩
  constructor
  · rintro ⟨_, ⟨entries, _, _, _, payload, _, _, _, _, stated⟩ | own⟩
    · exact .inl ⟨entries, payload, by rw [stated, Option.isSome_some]⟩
    · exact .inr own
  · rintro (states | own)
    · obtain ⟨_, payload, _⟩ := id states
      obtain ⟨decoded, platformSigned, bound⟩ := platform payload.1
      exact ⟨chained, .inl (statesChallenge_carries states decoded platformSigned bound)⟩
    · exact ⟨chained, .inr own⟩

end Accepted

section Stranger

/-- The first bytes of a CBOR item: its major type and a number. -/
def cborHead (major n : Nat) : Bytes :=
  if n < 24 then [UInt8.ofNat (32 * major + n)]
  else if n < 256 then [UInt8.ofNat (32 * major + 24), UInt8.ofNat n]
  else UInt8.ofNat (32 * major + 25) :: Wire.toBeBytes 2 n

def cborBytes (bytes : Bytes) : Bytes := cborHead 2 bytes.length ++ bytes

/-- A number of 66 bytes, given in two halves. -/
def wide (high low : Nat) : Bytes := Wire.toBeBytes 33 high ++ Wire.toBeBytes 33 low

/-- The generator of the curve, whose private key is one. -/
def strangerKey : Bytes :=
  0x04 :: wide
    0x00c6858e06b70404e9cd9e3ecb662395b4429c648139053fb521f828af606b4d3d
    0xbaa14b5e77efe75928fe1dc127a2ffa8de3348b3c1856a429bf97e7e31c2e5bd66 ++ wide
    0x011839296a789a3bc0045c8a5fb42c7d1bd998f54449579b446817afbd17273e66
    0x2c97ee72995ef42640c550b9013fad0761353c7086a272c24088be94769fd16650

def deviceKey : Bytes :=
  0x04 :: wide
    0x00433c219024277e7e682fcb288148c282747403279b1ccc06352c6e5505d769be
    0x97b3b204da6ef55507aa104a3a35c5af41cf2fa364d60fd967f43e3933ba6d783d ++ wide
    0x00f4bb8cc7f86db26700a7f3eceeeed3f0b5c6b5107c4da97740ab21a29906c42d
    0xbbb3e377de9f251f6b93937fa99a3248f4eafcbe95edc0f4f71be356d661f41b02

def subKey : Bytes :=
  0x04 :: wide
    0x00652bf3c52927a432c73dbc3391c04eb0bf7a596efdb53f0d24cf03dab8f177ac
    0xe4383c0c6d5e3014237112feaf137e79a329d7e1e6d8931738d5ab5096ec8f3078 ++ wide
    0x015be6ef1bdd6601d6ec8a2b73114a8112911cd8fe8e872e0051edd817c9a03470
    0x87bb6897c9072cf374311540211cf5ff79d1f007257354f7f8173cc3e8deb090cb

def rootKey : Bytes :=
  0x04 :: wide
    0x0056d5d1d99d5b7f6346eeb65fda0b073a0c5f22e0e8f5483228f018d2c2f7114c
    0x5d8c308d0abfc698d8c9a6df30dce3bbc46f953f50fdc2619a01cead882816ecd4 ++ wide
    0x003d2d1b7d9baaa2a110d1d8317a39d68478b5c582d02824f0dd71dbd98a26cbde
    0x556bd0f293cdec9e2b9523a34591ce1a5f9e76712a5ddefc7b5c6b8bc90525251b

def strangerChallenge : Bytes := 7 :: List.replicate 63 0

def strangerMap : Cbor := .map [(.integer 10, .bytes strangerChallenge), (.integer 44237, .bytes strangerKey)]

def strangerMapBytes : Bytes :=
  cborHead 5 2 ++ cborHead 0 10 ++ cborBytes strangerChallenge ++ cborHead 0 44237 ++ cborBytes strangerKey

/-- The signature of the payload under the private key one. -/
def strangerSignature : Bytes :=
  wide
    0x01a73d352443de29195dd91d6a64b5959479b52a6e5b123d9ab9e5ad7a112d7a8d
    0xd1ad3f164a3a4832051da6bd16b59fe21baeb490862c32ea05a5919d2ede37ad7d ++ wide
    0x0137d9e91d28c615d5bf49b4dfe22642f3634b2315def94d31c4584f11bf55f38a
    0xdc1b9448eda323d4d085ba9482cdfe0f1a8518bb705c7dfc2798b45caf21cfbdc7

/-- A signed message with the ES512 algorithm in its protected header. -/
def strangerSign1 : Bytes :=
  cborHead 6 18 ++ cborHead 4 4 ++ cborBytes [0xa1, 0x01, 0x38, 0x23] ++ cborHead 5 0 ++
    cborBytes (cborBytes strangerMapBytes) ++ cborBytes strangerSignature

def strangerEvidence : VirtccaEvidence where
  evidence := cborHead 6 399 ++ cborHead 5 1 ++ cborHead 0 44241 ++ cborBytes strangerSign1
  devCert := Wire.utf8 "device"
  imaLog := none
  eventLog := none

def numbers (bytes : Bytes) : Json.Value Empty := .array (bytes.map fun byte => .int byte.toNat)

def strangerText : Bytes :=
  Wire.utf8 (Json.Value.render Empty.elim (.object [
    ("evidence", numbers strangerEvidence.evidence),
    ("dev_cert", numbers strangerEvidence.devCert),
    ("ima_log", .null),
    ("event_log", .null)]))

/-- A message before and after it was read, with the key it is checked under. -/
structure Sign1 where
  bytes : Bytes
  read : Bool
  key : Option CoseKey

inductive Cert where
  | device | sub | root
  deriving DecidableEq, Repr

def Cert.named (bytes : Bytes) : Outcome Cert :=
  if bytes = Wire.utf8 "device" then .ok .device
  else if bytes = Wire.utf8 "sub" then .ok .sub
  else if bytes = Wire.utf8 "root" then .ok .root
  else .error (.error ["no certificate"])

def Cert.key : Cert → Bytes
  | .device => deviceKey
  | .sub => subKey
  | .root => rootKey

/-- The key that signed a certificate. -/
def Cert.issuer : Cert → Bytes
  | .device => subKey
  | .sub => rootKey
  | .root => rootKey

def knownPoint (bytes : Bytes) : Outcome Bytes :=
  if bytes ∈ [strangerKey, deviceKey, subKey, rootKey] then .ok bytes
  else .error (.error ["point is not on curve"])

/-- Libraries that know one signed message of a stranger and a certified device. -/
def strangerCrates : Crates where
  Message := Sign1
  PKey := Bytes
  X509 := Cert
  json := Json.Serde.ofValues []
  decodeBase64Url text := if text = Wire.utf8 "Bw" then .ok [7] else .error "InvalidByte"
  fromSlice text := if text = strangerText then .ok strangerEvidence else .error (.error ["expected value"])
  fromReader bytes :=
    if bytes = strangerEvidence.evidence then .ok (.tag 399 (.map [(.integer 44241, .bytes strangerSign1)]))
    else if bytes = strangerMapBytes then .ok strangerMap
    else .error (.error ["Io"])
  fromReaderBytes bytes :=
    if bytes = cborBytes strangerMapBytes then .ok strangerMapBytes else .error (.error ["Io"])
  newSign := ⟨[], false, none⟩
  withBytes bytes message := { message with bytes }
  initDecoder message :=
    if message.bytes = strangerSign1 then .ok { message with read := true } else .error "InvalidCoseStructure"
  payload message := if message.read then cborBytes strangerMapBytes else []
  alg message := if message.read then some (-36) else none
  setKey key message := .ok { message with key := some key }
  decodeMessage message :=
    if message.bytes = strangerSign1 ∧
        message.key.map (fun key => (key.x, key.y)) = (pointCoordinates strangerKey).map fun (x, y) => (some x, some y) then
      .ok ()
    else .error "InvalidSignature"
  keyId _ := .ec
  rsa _ := .error (.error ["expecting an rsa key"])
  ecKey key := .ok ⟨some secp521r1, .ok key⟩
  publicKeyFromDer _ := .error (.error ["wrong tag"])
  secp521r1FromBytes := knownPoint
  fromPem := Cert.named
  fromDer := Cert.named
  publicKey cert := .ok cert.key
  verify cert key := .ok (decide (cert.issuer = key))
  hash _ bytes := .ok bytes
  sha256 bytes := bytes
  parseIma _ := .error (.error ["UnexpectedEof"])
  read path :=
    if path = "/etc/attestation/attestation-service/verifier/virtcca/eccp521_root_cert.pem" then .ok (Wire.utf8 "root")
    else if path = "/etc/attestation/attestation-service/verifier/virtcca/eccp521_sub_cert.pem" then .ok (Wire.utf8 "sub")
    else .error (.error ["No such file or directory (os error 2)"])
  readLines _ := .error (.error ["No such file or directory (os error 2)"])
  fileExists _ := false
  noAs := false
  imaVerifier := false
  overflowChecks := false

theorem stranger_decoded : (Evidence.decode strangerCrates strangerEvidence.evidence).map
    (fun evidence => (evidence.isPlatform, evidence.cvmToken.pubKey)) = .ok (false, strangerKey) := by
  decide +kernel

theorem strangerText_read : strangerCrates.fromSlice strangerText = .ok strangerEvidence := by
  have read : ∀ text, strangerCrates.fromSlice text =
      if text = strangerText then .ok strangerEvidence else .error (.error ["expected value"]) := fun _ => rfl
  rw [read, if_pos rfl]

theorem device_read : strangerCrates.fromDer strangerEvidence.devCert = .ok Cert.device := by
  change Cert.named strangerEvidence.devCert = .ok Cert.device
  decide

theorem strangerKey_read :
    orElse (rawEcPublicKeyToPkey strangerCrates strangerKey) (strangerCrates.publicKeyFromDer strangerKey) =
      .ok strangerKey := by
  have known : knownPoint strangerKey = .ok strangerKey := if_pos List.mem_cons_self
  exact Wire.bind_eq_ok.mpr ⟨(), Wire.ensure_eq_ok.mpr rfl, known⟩

theorem keys_differ : deviceKey ≠ strangerKey := by
  decide

theorem stranger_accepted : ∃ claim, evaluate strangerCrates (Wire.utf8 "Bw") strangerText = .ok claim := by
  have told : (Evidence.verifyRead strangerCrates [7] strangerEvidence).map TeeClaim.isPlatform = .ok false := by
    decide +kernel
  obtain ⟨claim, accepted, _⟩ := Wire.map_eq_ok.mp told
  have challenged : strangerCrates.decodeBase64Url (Wire.utf8 "Bw") = .ok [7] := by
    decide
  refine ⟨claim, Wire.bind_eq_ok.mpr ⟨[7], Wire.mapError_eq_ok.mpr challenged, ?_⟩⟩
  refine Wire.bind_eq_ok.mpr ⟨(), Wire.ensure_eq_ok.mpr (by decide), ?_⟩
  exact Wire.bind_eq_ok.mpr ⟨strangerEvidence, strangerText_read, accepted⟩

/-- A key that the device does not stand behind is accepted: no platform token is there
to tie it to the device, and nothing compares it with the key of the certificate. -/
theorem stranger_key_accepted :
    (∀ digest, Function.Injective (strangerCrates.hash digest)) ∧
      (∃ claim, evaluate strangerCrates (Wire.utf8 "Bw") strangerText = .ok claim) ∧
      ∀ evidence devCert key, Verified strangerCrates strangerText evidence devCert key →
        ¬ Endorsed evidence devCert key := by
  refine ⟨fun _ _ _ same => Except.ok.inj same, stranger_accepted, ?_⟩
  intro evidence devCert key verified endorsed
  obtain ⟨virtccaEv, parsed, decoded, cert⟩ := verified.parts
  cases strangerText_read.symm.trans parsed
  have told := stranger_decoded
  rw [decoded] at told
  obtain ⟨platform, pubKey⟩ := Prod.mk.inj (Except.ok.inj told)
  rcases endorsed.bound with ⟨_, _, _, _, payload, _⟩ | own
  · cases platform.symm.trans payload.1
  · -- the certificate is that of the device, and the key is the one in the token
    have device : devCert = Cert.device := by
      rw [Evidence.parseDevCert, platform] at cert
      exact Except.ok.inj (cert.symm.trans device_read)
    have stranger : key = strangerKey := by
      have keyed := verified.keyed
      rw [cvmKey, pubKey] at keyed
      exact Except.ok.inj (keyed.symm.trans strangerKey_read)
    subst device stranger
    exact absurd (Except.ok.inj own) keys_differ

theorem token_key_endorsed_iff_stranger :
    ∃ evidence devCert key, Verified strangerCrates strangerText evidence devCert key ∧
      (Endorsed evidence devCert key ↔ StatesChallenge evidence ∨ strangerCrates.publicKey devCert = .ok key) := by
  obtain ⟨claim, accepted⟩ := stranger_accepted
  exact token_key_endorsed_iff accepted

end Stranger

end UnifiedAttestation.Virtcca
