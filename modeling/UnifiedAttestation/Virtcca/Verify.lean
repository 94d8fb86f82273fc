import UnifiedAttestation.Virtcca.Tokens
import UnifiedAttestation.Ima.Events

/-! The verification of VirtCCA evidence.

The evidence holds a signed token of the confidential machine, with the key that signed
it, and maybe a signed platform token whose challenge is the hash of that key. A
certificate of the device comes along.
-/

set_option autoImplicit false

namespace UnifiedAttestation.Virtcca

open Wire (Bytes Outcome bail orBail ensure context)
open Grpc (hexEncode)
open Eventlog (Detail Rems)

section Libraries

structure VirtccaEvidence where
  evidence : Bytes
  devCert : Bytes
  imaLog : Option Bytes
  eventLog : Option Bytes

/-- The kind of a key. -/
inductive Id where
  | rsa | ec | other
  deriving DecidableEq, Repr

/-- What is asked of an elliptic curve key: the number of its curve and its uncompressed point. -/
structure EcKey where
  curveName : Option Nat
  encodedPoint : Outcome Bytes

inductive Kty where
  | rsa | ec2
  deriving DecidableEq, Repr

inductive Crv where
  | p521
  deriving DecidableEq, Repr

inductive KeyOp where
  | verify
  deriving DecidableEq, Repr

structure CoseKey where
  kty : Option Kty
  crv : Option Crv
  n : Option Bytes
  e : Option Bytes
  x : Option Bytes
  y : Option Bytes
  alg : Option Int
  keyOps : List KeyOp
  deriving DecidableEq, Repr

def CoseKey.new : CoseKey := ⟨none, none, none, none, none, none, none, []⟩

inductive MessageDigest where
  | sha256 | sha384 | sha512
  deriving DecidableEq, Repr

/-- The libraries, the files and the build of the verifier. -/
structure Crates where
  Message : Type
  PKey : Type
  X509 : Type
  json : Json.Serde
  decodeBase64Url : Bytes → Except String Bytes
  fromSlice : Bytes → Outcome VirtccaEvidence
  fromReader : Bytes → Outcome Cbor
  fromReaderBytes : Bytes → Outcome Bytes
  newSign : Message
  withBytes : Bytes → Message → Message
  initDecoder : Message → Except String Message
  payload : Message → Bytes
  alg : Message → Option Int
  setKey : CoseKey → Message → Except String Message
  decodeMessage : Message → Except String Unit
  keyId : PKey → Id
  rsa : PKey → Outcome (Bytes × Bytes)
  ecKey : PKey → Outcome EcKey
  publicKeyFromDer : Bytes → Outcome PKey
  secp521r1FromBytes : Bytes → Outcome PKey
  fromPem : Bytes → Outcome X509
  fromDer : Bytes → Outcome X509
  publicKey : X509 → Outcome PKey
  verify : X509 → PKey → Outcome Bool
  hash : MessageDigest → Bytes → Outcome Bytes
  sha256 : Bytes → Bytes
  parseIma : Bytes → Outcome Ima.Parsed
  read : String → Outcome Bytes
  readLines : String → Outcome (List String)
  fileExists : String → Bool
  noAs : Bool
  imaVerifier : Bool
  overflowChecks : Bool

def Crates.events (K : Crates) : Eventlog.Env := ⟨K.sha256, K.readLines, K.noAs, K.overflowChecks⟩

def Crates.ima (K : Crates) : Ima.Env := ⟨K.parseIma, K.readLines, K.fileExists, K.noAs⟩

end Libraries

variable (K : Crates)

section Evidence

structure Evidence where
  cvmEnvelop : K.Message
  cvmToken : CvmToken
  platformEnvelop : K.Message
  platformToken : PlatformToken
  isPlatform : Bool

def Evidence.new : Evidence K := ⟨K.newSign, .new, K.newSign, .new, false⟩

variable {K}

def Evidence.setCvmToken (evidence : Evidence K) (v : Cbor) : Outcome (Evidence K) :=
  (getVec v "cvm_token" []).map fun bytes =>
    { evidence with cvmEnvelop := K.withBytes bytes evidence.cvmEnvelop }

def Evidence.setPlatformToken (evidence : Evidence K) (v : Cbor) : Outcome (Evidence K) :=
  (getVec v "platform_token" []).map fun bytes =>
    { evidence with platformEnvelop := K.withBytes bytes evidence.platformEnvelop }

def Evidence.set (evidence : Evidence K) (label : Int) (v : Cbor) : Outcome (Evidence K) :=
  match label with
  | 44241 => evidence.setCvmToken v
  | 44234 => { evidence with isPlatform := true }.setPlatformToken v
  | other => bail s!"unknown label {other}"

variable (K)

def coseDecode (envelop : K.Message) : Outcome K.Message :=
  (K.initDecoder envelop).mapError fun _ => .error ["decode COSE failed"]

/-- `CvmToken::decode`: the payload holds a byte string, and that the map. -/
def decodeCvmToken (rawPayload : Bytes) : Outcome CvmToken := do
  let payload ← K.fromReaderBytes rawPayload
  let payload ← K.fromReader payload
  CvmToken.decode payload

def decodePlatformToken (rawPayload : Bytes) : Outcome PlatformToken := do
  let payload ← K.fromReader rawPayload
  PlatformToken.decode payload

variable {K}

/-- What is decoded of the platform token, if there is one. -/
def Evidence.decodePlatform (evidence : Evidence K) : Outcome (Evidence K) :=
  if evidence.isPlatform then do
    let platformEnvelop ← coseDecode K evidence.platformEnvelop
    let platformToken ← decodePlatformToken K (K.payload platformEnvelop)
    .ok { evidence with platformEnvelop, platformToken }
  else .ok evidence

/-- The labels of the evidence, which stand in a map under a tag. -/
def Evidence.decodeContents (start : Evidence K) : Cbor → Outcome (Evidence K)
  | .tag number item =>
    if number = 399 then decodeLabels Evidence.set "expecting map type" "expecting integer key" start item
    else bail s!"input evidence error, expecting tag 399, got {number}"
  | _ => bail "expecting tag type"

variable (K)

def Evidence.decode (rawEvidence : Bytes) : Outcome (Evidence K) := do
  let val ← K.fromReader rawEvidence
  let evidence ← Evidence.decodeContents (.new K) val
  let cvmEnvelop ← coseDecode K evidence.cvmEnvelop
  let cvmToken ← decodeCvmToken K (K.payload cvmEnvelop)
  Evidence.decodePlatform { evidence with cvmEnvelop, cvmToken }

end Evidence

section Signatures

/-- The coordinates of an uncompressed point. -/
def pointCoordinates : Bytes → Option (Bytes × Bytes)
  | 0x04 :: rest => some (rest.take (rest.length / 2), rest.drop (rest.length / 2))
  | _ => none

def secp521r1 : Nat := 716

def checkCurve : Option Nat → Outcome Crv
  | some nid => if nid = secp521r1 then .ok .p521 else bail s!"Unsupported EC curve: Nid({nid})"
  | none => bail "EC key has no associated curve name"

def pkeyToCosekey (pkey : K.PKey) : Outcome CoseKey :=
  match K.keyId pkey with
  | .rsa => (K.rsa pkey).map fun (n, e) => { CoseKey.new with kty := some .rsa, n := some n, e := some e }
  | .ec => do
    let ecKey ← K.ecKey pkey
    let crv ← checkCurve ecKey.curveName
    let encodedPoint ← ecKey.encodedPoint
    let coordinates ← orBail "Unsupported EC point format" (pointCoordinates encodedPoint)
    .ok { CoseKey.new with
      kty := some .ec2
      crv := some crv
      x := some coordinates.1
      y := some coordinates.2 }
  | .other => bail "Unsupported key type"

def verifyCoseSign1 (envelop : K.Message) (pkey : K.PKey) : Outcome Unit := do
  let coseKey ← pkeyToCosekey K pkey
  let alg ← orBail "cose sign verify alg is none" (K.alg envelop)
  let envelop ← (K.setKey { coseKey with keyOps := [.verify], alg := some alg } envelop).mapError
    fun err => .error [s!"set cose_key to COSE_Sign1 envelop failed: {err}"]
  (K.decodeMessage envelop).mapError fun err => .error [s!"verify COSE_Sign1 signature failed:{err}"]

def certDir : String :=
  if K.noAs then "/etc/attestation/attestation-agent/local_verifier/virtcca/"
  else "/etc/attestation/attestation-service/verifier/virtcca/"

/-- The files of the root certificate and of the one below it. -/
def detectCertPath (devCert : K.X509) : Outcome (String × String) := do
  let pubkey ← K.publicKey devCert
  match K.keyId pubkey with
  | .rsa => .ok (certDir K ++ "Huawei Equipment Root CA.pem", certDir K ++ "Huawei IT Product CA.pem")
  | .ec => .ok (certDir K ++ "eccp521_root_cert.pem", certDir K ++ "eccp521_sub_cert.pem")
  | .other => bail "unsupported cert type"

/-- A certificate from a file; `name` is what the errors call it. -/
def loadCert (name path : String) : Outcome K.X509 := do
  let file ← context s!"failed to read VirtCCA {name} cert {path}" (K.read path)
  context s!"failed to parse VirtCCA {name} cert {path}" (K.fromPem file)

def verifyDevCertChain (devCert : K.X509) : Outcome Unit := do
  let (rootCertPath, subCertPath) ← detectCertPath K devCert
  let subCert ← loadCert K "sub" subCertPath
  let rootCert ← loadCert K "root" rootCertPath
  let subKey ← K.publicKey subCert
  let bySub ← K.verify devCert subKey
  ensure (bySub = true) (.error ["verify dev cert by sub cert failed"])
  let rootKey ← K.publicKey rootCert
  let byRoot ← K.verify subCert rootKey
  ensure (byRoot = true) (.error ["verify sub cert by root cert failed"])
  let bySelf ← K.verify rootCert rootKey
  ensure (bySelf = true) (.error ["verify self signed root cert failed"])

variable {K}

def Evidence.verifyPlatformSign1 (evidence : Evidence K) (devCert : K.X509) : Outcome Unit :=
  if evidence.isPlatform then do
    let pkey ← K.publicKey devCert
    verifyCoseSign1 K evidence.platformEnvelop pkey
  else .ok ()

def Evidence.verifyPlatformToken (evidence : Evidence K) (devCert : K.X509) : Outcome Unit := do
  verifyDevCertChain K devCert
  evidence.verifyPlatformSign1 devCert

def digestOf : String → Option MessageDigest
  | "sha-256" => some .sha256
  | "sha-384" => some .sha384
  | "sha-512" => some .sha512
  | _ => none

def Evidence.verfiyCvmChallenge (evidence : Evidence K) (challenge rawPubKey : Bytes) : Outcome Unit := do
  let digest ← orBail "unsupported algorithm for pubkey verification" (digestOf evidence.cvmToken.pubKeyHashAlg)
  let calculatedChallenge ← K.hash digest rawPubKey
  ensure (calculatedChallenge = challenge) (.error ["verify cvm pubkey by platform challenge failed"])

/-- The key of the token against the challenge of the platform token, if there is one. -/
def Evidence.verifyCvmPubKey (evidence : Evidence K) : Outcome Unit :=
  if evidence.isPlatform then evidence.verfiyCvmChallenge evidence.platformToken.challenge evidence.cvmToken.pubKey
  else .ok ()

variable (K)

def rawEcPublicKeyToPkey (rawKey : Bytes) : Outcome K.PKey := do
  ensure (rawKey.head? = some 0x04) (.error ["Invalid uncompressed EC public key format"])
  K.secp521r1FromBytes rawKey

/-- `or_else`: a panic is no error. -/
def orElse {β : Type} (other : Outcome β) : Outcome β → Outcome β
  | .ok value => .ok value
  | .error (.error _) => other
  | .error .panic => .error .panic

/-- The key in the token of the machine. -/
def cvmKey (token : CvmToken) : Outcome K.PKey :=
  orElse (rawEcPublicKeyToPkey K token.pubKey) (K.publicKeyFromDer token.pubKey)

end Signatures

section Reference

/-- The members of the reference value against the register of the token. -/
def compareMembers (rim : String) : Json.Map K.json.Float → Outcome Unit
  | [] => .ok ()
  | ("rim", v) :: rest => do
    let rimRef ← orBail "tim ref expecting String" v.asStr
    ensure (rimRef = rim) (.error [s!"expecting rim: {rimRef}, got: {rim}"])
    compareMembers rim rest
  | _ :: rest => compareMembers rim rest

def refValueFile : String := "/etc/attestation/attestation-agent/local_verifier/virtcca/ref_value.json"

variable {K}

def Evidence.compareWithRef (evidence : Evidence K) : Outcome Unit := do
  let refFile ← context s!"failed to read VirtCCA reference value {refValueFile}" (K.read refValueFile)
  let jsRef ← context s!"failed to parse VirtCCA reference value {refValueFile}"
    ((K.json.fromSlice refFile).mapError fun err => .error [err])
  let members ← orBail "invalid json ref value" jsRef.asObject
  compareMembers K (hexEncode evidence.cvmToken.rim) members

def Evidence.verifyReference (evidence : Evidence K) : Outcome Unit :=
  if K.noAs then evidence.compareWithRef else .ok ()

def Evidence.verifyCvmToken (evidence : Evidence K) (challenge : Bytes) : Outcome Unit := do
  let tokenChallenge ← Eventlog.slice evidence.cvmToken.challenge 0 challenge.length
  ensure (challenge = tokenChallenge)
    (.error [s!"verify cvm token challenge error, cvm_token challenge {tokenChallenge}, input challenge {challenge}"])
  evidence.verifyCvmPubKey
  let pkey ← cvmKey K evidence.cvmToken
  verifyCoseSign1 K evidence.cvmEnvelop pkey
  evidence.verifyReference

end Reference

section Verify

/-- What is reported of the evidence. -/
structure TeeClaim where
  tee : String
  challenge : String
  rpv : String
  rim : String
  rem : Fin 4 → String
  isPlatform : Bool
  measureValue : List SwComp
  ima : Detail
  eventLog : Detail

variable {K}

def Evidence.parseClaimFromEvidence (evidence : Evidence K) (ima eventLog : Detail) : TeeClaim where
  tee := "virtcca"
  challenge := hexEncode evidence.cvmToken.challenge
  rpv := hexEncode evidence.cvmToken.rpv
  rim := hexEncode evidence.cvmToken.rim
  rem i := hexEncode (evidence.cvmToken.rem i)
  isPlatform := evidence.isPlatform
  measureValue := evidence.platformToken.swComponents
  ima := ima
  eventLog := eventLog

def Evidence.verifyIma (evidence : Evidence K) : Option Bytes → Outcome Detail
  | some imaLog =>
    if K.imaVerifier then Ima.imaVerify K.ima imaLog evidence.cvmToken.rem (some (hexEncode evidence.cvmToken.rim))
    else bail "VirtCCA evidence contains ima_log, but ima-verifier feature is disabled"
  | none => .ok fun _ => none

def Evidence.verifyEventLog (evidence : Evidence K) : Option Bytes → Outcome Detail
  | some eventLog => Eventlog.eventVerify K.events eventLog evidence.cvmToken.rem
  | none => .ok fun _ => none

def Evidence.parseDevCert (evidence : Evidence K) (devCert : Bytes) : Outcome K.X509 :=
  if evidence.isPlatform then K.fromPem devCert else K.fromDer devCert

variable (K)

/-- `Evidence::verify` of evidence that has been read. -/
def Evidence.verifyRead (userData : Bytes) (virtccaEv : VirtccaEvidence) : Outcome TeeClaim := do
  let evidence ← Evidence.decode K virtccaEv.evidence
  let devCert ← evidence.parseDevCert virtccaEv.devCert
  evidence.verifyPlatformToken devCert
  evidence.verifyCvmToken userData
  let ima ← evidence.verifyIma virtccaEv.imaLog
  let eventLog ← evidence.verifyEventLog virtccaEv.eventLog
  .ok (evidence.parseClaimFromEvidence ima eventLog)

def Evidence.verify (userData evidence : Bytes) : Outcome TeeClaim := do
  let virtccaEv ← K.fromSlice evidence
  Evidence.verifyRead K userData virtccaEv

def maxChallengeLen : Nat := 64

/-- `VirtCCAVerifier::evaluate`. -/
def evaluate (userData evidence : Bytes) : Outcome TeeClaim := do
  let challenge ← (K.decodeBase64Url userData).mapError
    fun err => .error [s!"decode base64url challenge failed: {err}"]
  ensure (0 < challenge.length ∧ challenge.length ≤ maxChallengeLen)
    (.error [s!"challenge len is error, expecting 0 < len <= {maxChallengeLen}, got {challenge.length}"])
  Evidence.verify K challenge evidence

end Verify

end UnifiedAttestation.Virtcca
