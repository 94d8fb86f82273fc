import UnifiedAttestation.Ima.Coverage

/-! The verification of iTrustee evidence.

A native library checks the report against a nonce and a reference file. Without an IMA log
the nonce is the challenge; with one it is the challenge and the hash of the log, as the
report itself states them.
-/

set_option autoImplicit false

namespace UnifiedAttestation.Itrustee

open Wire (Bytes Outcome bail orBail ensure utf8)
open Json (Value)
open Eventlog (Detail)

section Libraries

structure ItrusteeEvidence where
  report : String
  imaLog : Option Bytes

/-- The libraries, the files and the build of the verifier. -/
structure Crates where
  json : Json.Serde
  fromSlice : Bytes → Outcome ItrusteeEvidence
  decodeBase64Url : Bytes → Except String Bytes
  sha256 : Bytes → Bytes
  parseIma : Bytes → Outcome Ima.Parsed
  readLines : String → Outcome (List String)
  fileExists : String → Bool
  noAs : Bool
  imaVerifier : Bool
  /-- `tee_verify_report`: a report, a nonce, a policy and the name of a reference file. -/
  teeVerifyReport (dataBuf nonce : Bytes) (policy : Nat) (filename : String) : Int

def Crates.ima (K : Crates) : Ima.Env := ⟨K.parseIma, K.readLines, K.fileExists, K.noAs⟩

end Libraries

variable (K : Crates)

section Ima

def imaBaseDir (noAs : Bool) : String :=
  if noAs then "/etc/attestation/attestation-agent/local_verifier/itrustee/ima"
  else "/etc/attestation/attestation-service/verifier/itrustee/ima"

def imaReferenceFile (noAs : Bool) : String := imaBaseDir noAs ++ "/digest_list_file"

def uuidLen : Nat := 36

def isValidUuid (uuid : String) : Bool :=
  decide (uuid.utf8ByteSize = uuidLen) && decide (uuid.toList.count '-' = 4) &&
    uuid.toList.all fun char => Ima.isAsciiHexdigit char || char == '-'

def appReferenceFile (uuid : String) : String := imaBaseDir K.noAs ++ "/" ++ uuid ++ "/digest_list_file"

def getImaReferenceFilePath (uuid : Option String) : String :=
  match uuid with
  | none => imaReferenceFile K.noAs
  | some uuid =>
    if isValidUuid uuid && K.fileExists (appReferenceFile K uuid) then appReferenceFile K uuid
    else imaReferenceFile K.noAs

/-- `ItrusteeImaVerify::ima_verify`. An empty log is not compared with any hash. -/
def imaVerify (imaLog : Bytes) (imaLogHash : List Bytes) (appId : Option String) : Outcome Detail :=
  if imaLog = [] then .ok fun _ => none
  else do
    let parsed ← K.parseIma imaLog
    ensure (2 ≤ parsed.events.length) (.error ["No IMA measurement records for files found."])
    let expected ← orBail "ima_log_hash array is empty" imaLogHash.head?
    let hashsum := K.sha256 imaLog
    let shown := hashsum.map UInt8.toNat
    let wanted := expected.map UInt8.toNat
    ensure (hashsum = expected) (.error ["ima log hash verification failed, sha256sum not match. " ++
      s!"ima_log_hashsum: {shown}, ima_log_hash: {wanted}"])
    let refPath := getImaReferenceFilePath K appId
    let imaRefs ← Ima.failedToRead refPath (Ima.fileReader K.ima refPath)
    Ima.verifyImaEvents parsed.events imaRefs

end Ima

section Evaluate

def itrusteeRefValueDir : String := "/etc/attestation/attestation-service/verifier/itrustee"

def maxChallengeLen : Nat := 64

/-- The member of a value, and `null` where it has none. -/
def index {F : Type} (value : Value F) (key : String) : Value F := (value.get key).getD .null

/-- A buffer of the library; its size is a C `unsigned int`. -/
def buffer (bytes : Bytes) : Bytes := bytes.take (bytes.length % UInt32.size)

/-- A text as C reads it. -/
def cString (text : String) : String := String.ofList (text.toList.takeWhile (· ≠ Char.ofNat 0))

/-- The check of the IMA log, and the nonce of the report. -/
def verifyImaLog (report : Value K.json.Float) (challenge imaLog : Bytes) : Outcome (Detail × Bytes) := do
  let reportNonce ← orBail "IMA verification: nonce not found in evidence" (index (index report "payload") "nonce").asStr
  let uuid ← orBail "IMA verification: uuid not found in evidence" (index (index report "payload") "uuid").asStr
  let nonceAll ← (K.decodeBase64Url (utf8 reportNonce)).mapError
    fun err => .error [s!"decode base64url report nonce failed: {err}"]
  ensure (nonceAll.length = maxChallengeLen)
    (.error [s!"IMA verification: {uuid} nonce length is not 64 bytes, got {nonceAll.length}"])
  ensure (nonceAll.take 32 = challenge) (.error [s!"IMA verification: {uuid} nonce and challenge mismatch"])
  let ima ← imaVerify K imaLog [nonceAll.drop 32] (some uuid)
  .ok (ima, nonceAll)

/-- What is reported of the log, and the nonce that the library gets. -/
def verifyIma (report : Value K.json.Float) (challenge : Bytes) : Option Bytes → Outcome (Option Detail × Bytes)
  | none => .ok (none, challenge)
  | some imaLog =>
    if K.imaVerifier then (verifyImaLog K report challenge imaLog).map fun (ima, nonce) => (some ima, nonce)
    else bail "iTrustee evidence contains ima_log, but ima-verifier feature is disabled"

/-- What is reported of the evidence. -/
structure TeeClaim (F : Type) where
  tee : String
  payload : Json.Map F
  ima : Option Detail

def claimed {F : Type} (report : Value F) (ima : Option Detail) : TeeClaim F where
  tee := "itrustee"
  payload := ["nonce", "hash_alg", "key", "ta_img", "ta_mem", "uuid", "version"].map fun key =>
    ("itrustee." ++ key, index (index report "payload") key)
  ima

def refFile (uuid : String) : String := itrusteeRefValueDir ++ "/itrustee_" ++ uuid

/-- The image of the TA is verified, and not its memory. -/
def policy : Nat := 1

/-- `evaluate_wrapper` of evidence that has been read. -/
def evaluateEvidence (challenge : Bytes) (evidence : ItrusteeEvidence) : Outcome (TeeClaim K.json.Float) := do
  let report ← (K.json.fromStr evidence.report).mapError fun err => .error [err]
  ensure (0 < challenge.length ∧ challenge.length ≤ maxChallengeLen)
    (.error [s!"challenge len is error, expecting 0 < len <= {maxChallengeLen}, got {challenge.length}"])
  let (ima, inData) ← verifyIma K report challenge evidence.imaLog
  let uuid ← orBail "Parse TA uuid from evidence failed." (index (index report "payload") "uuid").asStr
  ensure (K.fileExists (refFile uuid)) (.error [s!"itrustee verify report {refFile uuid} not exists"])
  let ret := K.teeVerifyReport (buffer (utf8 evidence.report)) (buffer inData) policy (cString (refFile uuid))
  ensure (ret = 0) (.error [s!"itrustee verify report failed ret:{ret}"])
  .ok (claimed report ima)

/-- `evaluate_wrapper`. -/
def evaluate (userData evidence : Bytes) : Outcome (TeeClaim K.json.Float) := do
  let challenge ← (K.decodeBase64Url userData).mapError
    fun err => .error [s!"decode base64url challenge failed: {err}"]
  let evidence ← K.fromSlice evidence
  evaluateEvidence K challenge evidence

end Evaluate

end UnifiedAttestation.Itrustee
