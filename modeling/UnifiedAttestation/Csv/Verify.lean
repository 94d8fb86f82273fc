import UnifiedAttestation.Csv.Report
import UnifiedAttestation.Virtcca.Verify

/-! The verification of Hygon CSV evidence, and of evidence files.

The report of the evidence must answer the challenge and be signed under the certificate
that it embeds. The chain above that certificate is checked where its upper two
certificates are found.
-/

set_option autoImplicit false

namespace UnifiedAttestation.Csv

open Wire (Bytes Outcome bail ensure context utf8)
open Grpc (hexEncode)

section Libraries

structure HygonCsvEvidence where
  mode : String
  report : String
  nonce : String
  imaLog : Option Bytes

/-- An evidence file, read but for its type. -/
structure RawFile (F : Type) where
  tee : Json.Value F
  challenge : Bytes
  evidence : Json.Value F

/-- What a command left behind. -/
structure Output where
  success : Bool
  stdout : Bytes

/-- The libraries, the surroundings and the build of the verifier. The verifiers of other
evidence are there if they are built in; that of iTrustee is a native library. -/
structure Crates where
  openSsl : OpenSsl
  json : Json.Serde
  evidenceFile : Bytes → Outcome (RawFile json.Float)
  csvEvidence : Bytes → Outcome HygonCsvEvidence
  unexpected : Json.Value json.Float → String
  located (text : Bytes) (message : String) : String
  decodeUrlSafe : Bytes → Except String Bytes
  decodeStandard : Bytes → Outcome Bytes
  sha256 : Bytes → Bytes
  utf8Error : Bytes → String
  env : String → Option String
  fileExists : String → Bool
  read : String → Outcome Bytes
  curl (url : String) : Option Output
  csvUserVerifier : Bool
  csvKernelVerifier : Bool
  itrusteeVerifier : Option (Bytes → Bytes → Outcome (Json.Value json.Float))
  virtccaVerifier : Option Virtcca.Crates

end Libraries

variable (K : Crates)

section Meanings

def keyUsageTypeHsk : UInt32 := 0x13
def keyUsageTypeInvalid : UInt32 := 0x1000
def keyUsageTypePek : UInt32 := 0x1002
def keyUsageTypeCek : UInt32 := 0x1004

def hexWord (word : UInt32) : String := "0x" ++ Eventlog.hexText word.toNat

def csvPolicyMeaning (policy : UInt32) : String := s!"CSV report policy bitfield ({hexWord policy})"

def usageMeanings : List (UInt32 × String) := [
  (0x0, "HRK: Hygon root key"),
  (keyUsageTypeHsk, "HSK: Hygon signing key"),
  (keyUsageTypeInvalid, "INVALID: no key usage"),
  (0x1001, "OCA: owner certificate authority key"),
  (keyUsageTypePek, "PEK: platform endorsement key"),
  (0x1003, "PDH: platform Diffie-Hellman key"),
  (keyUsageTypeCek, "CEK: chip endorsement key")]

def csvUsageMeaning (usage : UInt32) : String :=
  (usageMeanings.lookup usage).getD s!"unknown key usage ({hexWord usage})"

def sigAlgoMeanings : List (UInt32 × String) := [
  (0x0, "INVALID: no signature algorithm"),
  (0x1, "RSA with SHA-256"),
  (0x2, "ECDSA with SHA-256"),
  (0x3, "ECDH with SHA-256"),
  (0x4, "SM2 signature algorithm with SM3 digest"),
  (0x5, "SM2 key exchange algorithm"),
  (0x101, "RSA with SHA-384"),
  (0x102, "ECDSA with SHA-384"),
  (0x103, "ECDH with SHA-384")]

def csvSigAlgoMeaning (algo : UInt32) : String :=
  (sigAlgoMeanings.lookup algo).getD s!"unknown signature algorithm ({hexWord algo})"

/-- What is reported of the evidence. -/
structure CsvClaim where
  tee : String
  mode : String
  nonce : String
  userData : String
  measure : String
  policy : UInt32
  policyMeaning : String
  sigUsage : UInt32
  sigUsageMeaning : String
  sigAlgo : UInt32
  sigAlgoMeaning : String
  anonce : UInt32
  sn : String
  sessionMac : Bool
  certChain : Bool

end Meanings

section Nonces

def csvNonceLen : Nat := 16

def challengeToNonce (challenge : Bytes) : Outcome Bytes := do
  let challenge ← (K.decodeUrlSafe challenge).mapError
    fun err => .error [s!"decode base64url challenge failed: {err}"]
  ensure (challenge ≠ []) (.error ["challenge cannot be empty"])
  .ok ((K.sha256 challenge).take csvNonceLen)

/-- Reports are exported with these bytes cleared, and then tell nothing of the session. -/
def verifySessionMacIfAvailable (report : CsvReport) : Outcome Bool :=
  if report.reserved2.all (· == 0) then .ok false
  else do
    let hmac ← K.openSsl.hmacSm3 report.mnonce report.macInput
    ensure (hmac = report.mac) (.error ["Hygon CSV report session MAC verification failed"])
    .ok true

end Nonces

section Certificates

def hrkPubkey : Bytes :=
  u32ToLe 3 ++
    [0x2d, 0xf6, 0xc2, 0x92, 0x1d, 0xf2, 0xf5, 0x2a, 0x50, 0x1f, 0xcd, 0x85, 0xe7, 0x35, 0x09,
      0xc8, 0x75, 0x3a, 0x56, 0x09, 0xdb, 0x02, 0xd7, 0xf3, 0x4c, 0xf1, 0xa4, 0x62, 0x4d, 0xe1,
      0x62, 0xbe, 0x00] ++ List.replicate (eccPointSize - 33) 0 ++
    [0x46, 0xb9, 0x1e, 0xb4, 0x68, 0x4d, 0x74, 0x38, 0x47, 0x88, 0xbe, 0xb9, 0x10, 0x0c, 0x64,
      0x4a, 0x38, 0x95, 0x4e, 0x16, 0x97, 0x8b, 0x4f, 0x58, 0x15, 0x70, 0xbb, 0x57, 0x3a, 0x12,
      0xab, 0x3b, 0x00] ++ List.replicate (eccPointSize - 33) 0 ++
    [13, 0] ++ utf8 "HYGON-SSD-HRK" ++ List.replicate (hygonUserIdSize - 15) 0

def verifyHskCert (cert : Bytes) : Outcome Unit := do
  ensure (u32AtLe cert rootCertKeyUsageOffset = keyUsageTypeHsk) (.error ["hsk key_usage is not HSK"])
  verifySignature K.openSsl (cert.take rootCertSignedSize)
    ⟨window cert rootCertSignatureOffset eccSignatureSize⟩ ⟨hrkPubkey⟩

def verifyCsvCertWithRootIssuer (cert issuer : Bytes) : Outcome Unit := do
  ensure (u32AtLe cert csvCertPubkeyUsageOffset = keyUsageTypeCek) (.error ["cek pubkey_usage is not CEK"])
  ensure (u32AtLe cert csvCertSig1UsageOffset = keyUsageTypeHsk) (.error ["cek sig1_usage is not HSK"])
  ensure (u32AtLe cert csvCertSig2UsageOffset = keyUsageTypeInvalid) (.error ["cek sig2_usage is not INVALID"])
  let sigOffset := if u32AtLe cert csvCertSig1UsageOffset = keyUsageTypeInvalid then csvCertSig2Offset
    else csvCertSig1Offset
  verifySignature K.openSsl (cert.take csvCertSignedSize) ⟨window cert sigOffset eccSignatureSize⟩
    ⟨window issuer rootCertPubkeyOffset eccPubkeySize⟩

def verifyCsvCertWithCsvIssuer (cert issuer : Bytes) : Outcome Unit := do
  ensure (u32AtLe cert csvCertPubkeyUsageOffset = keyUsageTypePek) (.error ["pek pubkey_usage is not PEK"])
  ensure (u32AtLe cert csvCertSig1UsageOffset = keyUsageTypeCek) (.error ["pek sig1_usage is not CEK"])
  let usage := u32AtLe issuer csvCertPubkeyUsageOffset
  ensure (usage = keyUsageTypeCek) (.error [s!"unsupported CSV cert issuer usage {hexWord usage}"])
  verifySignature K.openSsl (cert.take csvCertSignedSize) ⟨window cert csvCertSig1Offset eccSignatureSize⟩
    ⟨window issuer csvCertPubkeyOffset eccPubkeySize⟩

/-- The certificates of a chip come in one file, the HSK in front of the CEK. -/
def verifyChain (hskCek pekCert : Bytes) : Outcome Unit := do
  let hsk := hskCek.take rootCertSize
  let cek := window hskCek rootCertSize csvCertSize
  context "verify HSK cert signature failed" (verifyHskCert K hsk)
  context "verify CEK cert signature failed" (verifyCsvCertWithRootIssuer K cek hsk)
  context "verify PEK cert signature failed" (verifyCsvCertWithCsvIssuer K pekCert cek)

end Certificates

section Loading

def hskCekCertFile : String := "hsk_cek.cert"
def hskCekDefaultDir : String := "/opt/hygon/demo/csv/hsk_cek"
def hygonKdsServerSite : String := "https://cert.hygon.cn/hsk_cek?snumber="

/-- `Path::join`: an absolute path replaces the base. -/
def joinPath (base path : String) : String :=
  if path.toList.head? = some '/' then path
  else if base.toList.getLast?.all (· = '/') then base ++ path
  else base ++ "/" ++ path

def chipIdToString (chipId : Bytes) : Outcome String := do
  let named := chipId.takeWhile (· ≠ 0)
  let chipId ← Wire.okOr (.error ["Hygon CSV chip_id is not UTF-8", K.utf8Error named]) (Wire.fromUtf8 named)
  ensure (chipId ≠ "") (.error ["Hygon CSV chip_id is empty"])
  .ok chipId

def hskCekCandidatePaths (chipId : String) : List String :=
  (K.env "HYGON_HSK_CEK_CERT").toList ++
    [hskCekCertFile, joinPath (joinPath hskCekDefaultDir chipId) hskCekCertFile]

def normalizeHskCekCert (hskCek : Bytes) (source : String) : Outcome Bytes := do
  let expected := rootCertSize + csvCertSize
  ensure (expected ≤ hskCek.length) (.error [
    s!"Hygon HSK/CEK cert from {source} is too short, expecting at least {expected}, got {hskCek.length}"])
  .ok (hskCek.take expected)

/-- A command that cannot be started or fails leaves nothing, and that is no error. -/
def downloadHskCekCert (chipId : String) : Outcome (Option Bytes) :=
  if K.env "HYGON_CSV_DOWNLOAD_CERTS" = some "0" then .ok none
  else
    let url := hygonKdsServerSite ++ chipId
    match K.curl url with
    | none => .ok none
    | some output => if output.success then (normalizeHskCekCert output.stdout url).map some else .ok none

def loadHskCekCert (chipId : String) : Outcome (Option Bytes) :=
  match (hskCekCandidatePaths K chipId).find? K.fileExists with
  | some path => do
    let hskCek ← context s!"read Hygon HSK/CEK cert failed: {path}" (K.read path)
    (normalizeHskCekCert hskCek path).map some
  | none => downloadHskCekCert K chipId

/-- Without certificates there is nothing to verify. -/
def verifyChainIfFound (pekCert : Bytes) : Option Bytes → Outcome Bool
  | none => .ok false
  | some hskCek => (verifyChain K hskCek pekCert).map fun _ => true

def verifyCertChainIfAvailable (report : CsvReport) : Outcome Bool := do
  let chipId ← chipIdToString K report.chipId
  let found ← loadHskCekCert K chipId
  verifyChainIfFound K report.pekCert found

end Loading

section Evaluate

def csvTee (expectedMode : String) : String :=
  match expectedMode with
  | "user" => "hygon_csv_user"
  | "kernel" => "hygon_csv_kernel"
  | _ => "hygon_csv"

/-- `evaluate` of a report that has been decoded. -/
def evaluateReport (expectedMode mode : String) (expectedNonce reportBytes : Bytes) : Outcome CsvClaim := do
  let parsed ← CsvReport.parse reportBytes
  ensure (parsed.mnonce = expectedNonce) (.error ["Hygon CSV report mnonce does not match request.challenge"])
  let sessionMacVerified ← verifySessionMacIfAvailable K parsed
  verifyReportSignature K.openSsl parsed
  let chainVerified ← verifyCertChainIfAvailable K parsed
  .ok {
    tee := csvTee expectedMode
    mode
    nonce := hexEncode parsed.mnonce
    userData := hexEncode parsed.userData
    measure := hexEncode parsed.measure
    policy := parsed.policy
    policyMeaning := csvPolicyMeaning parsed.policy
    sigUsage := parsed.sigUsage
    sigUsageMeaning := csvUsageMeaning parsed.sigUsage
    sigAlgo := parsed.sigAlgo
    sigAlgoMeaning := csvSigAlgoMeaning parsed.sigAlgo
    anonce := parsed.anonce
    sn := hexEncode parsed.chipId
    sessionMac := sessionMacVerified
    certChain := chainVerified }

/-- `evaluate` of evidence that has been read. -/
def evaluateEvidence (expectedMode : String) (userData : Bytes) (evidence : HygonCsvEvidence) : Outcome CsvClaim := do
  ensure (evidence.mode = expectedMode)
    (.error [s!"Hygon CSV evidence mode mismatch: expected {expectedMode}, got {evidence.mode}"])
  ensure (evidence.imaLog = none)
    (.error ["Hygon CSV evidence contains ima_log, but CSV IMA verification is not implemented"])
  let expectedNonce ← challengeToNonce K userData
  let evidenceNonce ← (K.decodeUrlSafe (utf8 evidence.nonce)).mapError
    fun err => .error [s!"decode Hygon CSV evidence nonce failed: {err}"]
  ensure (evidenceNonce = expectedNonce) (.error ["Hygon CSV evidence nonce does not match request.challenge"])
  let reportBytes ← context "decode Hygon CSV report failed" (K.decodeStandard (utf8 evidence.report))
  evaluateReport K expectedMode evidence.mode expectedNonce reportBytes

/-- `HygonCsvVerifier::evaluate`. -/
def evaluate (expectedMode : String) (userData evidence : Bytes) : Outcome CsvClaim := do
  let evidence ← context "parse Hygon CSV evidence failed" (K.csvEvidence evidence)
  evaluateEvidence K expectedMode userData evidence

end Evaluate

section EvidenceFiles

inductive TeeType where
  | itrustee | virtcca | hygonCsvUser | hygonCsvKernel | invalid
  deriving DecidableEq, Repr

def TeeType.name : TeeType → String
  | .itrustee => "Itrustee"
  | .virtcca => "Virtcca"
  | .hygonCsvUser => "HygonCsvUser"
  | .hygonCsvKernel => "HygonCsvKernel"
  | .invalid => "Invalid"

def TeeType.spellings : List (String × TeeType) := [
  ("itrustee", .itrustee),
  ("virtcca", .virtcca),
  ("vcca", .virtcca),
  ("hygoncsvuser", .hygonCsvUser),
  ("hygon_csv_user", .hygonCsvUser),
  ("hygon-csv-user", .hygonCsvUser),
  ("hygoncsvkernel", .hygonCsvKernel),
  ("hygon_csv_kernel", .hygonCsvKernel),
  ("hygon-csv-kernel", .hygonCsvKernel),
  ("invalid", .invalid)]

def TeeType.numbers : List (Nat × TeeType) :=
  [(1, .itrustee), (2, .virtcca), (3, .hygonCsvUser), (4, .hygonCsvKernel)]

/-- The visitor: a spelling in any case, or a number, and any other number is invalid. -/
def TeeType.deserialize (tee : Json.Value K.json.Float) : Except String TeeType :=
  match tee with
  | .string value =>
    Wire.okOr s!"unsupported tee type: {value}" (TeeType.spellings.lookup (value.map Char.toLower))
  | value =>
    match value.asU64 with
    | some number => .ok ((TeeType.numbers.lookup number).getD .invalid)
    | none => .error s!"invalid type: {K.unexpected value}, expected a TEE type string or integer"

structure TeeEvidenceFile where
  tee : TeeType
  challenge : Bytes
  evidence : Json.Value K.json.Float

def readEvidenceFile (input : Bytes) : Outcome (TeeEvidenceFile K) := do
  let file ← K.evidenceFile input
  let tee ← (TeeType.deserialize K file.tee).mapError fun message => .error [K.located input message]
  .ok { tee, challenge := file.challenge, evidence := file.evidence }

def evidenceToBytes (evidence : Json.Value K.json.Float) : Bytes :=
  match evidence with
  | .string text => utf8 text
  | other => K.json.toVec other

/-- A claim about one kind of evidence. -/
inductive TeeClaim where
  | itrustee (claim : Json.Value K.json.Float)
  | virtcca (claim : Virtcca.TeeClaim)
  | csv (claim : CsvClaim)

/-- Evidence of a type that the build has no verifier for. -/
def disabled (tee : TeeType) : Outcome (TeeClaim K) := bail s!"unsupported or disabled tee type: {tee.name}"

def verifyEvidence (evidenceFile : TeeEvidenceFile K) : Outcome (TeeClaim K) :=
  let evidence := evidenceToBytes K evidenceFile.evidence
  let challenge := evidenceFile.challenge
  match evidenceFile.tee with
  | .hygonCsvUser =>
    if K.csvUserVerifier then (evaluate K "user" challenge evidence).map .csv else disabled K .hygonCsvUser
  | .hygonCsvKernel =>
    if K.csvKernelVerifier then (evaluate K "kernel" challenge evidence).map .csv else disabled K .hygonCsvKernel
  | .itrustee =>
    match K.itrusteeVerifier with
    | some itrustee => (itrustee challenge evidence).map .itrustee
    | none => disabled K .itrustee
  | .virtcca =>
    match K.virtccaVerifier with
    | some virtcca => (Virtcca.evaluate virtcca challenge evidence).map .virtcca
    | none => disabled K .virtcca
  | .invalid => disabled K .invalid

def verifyEvidenceJson (input : Bytes) : Outcome (TeeClaim K) := do
  let evidenceFile ← context "failed to parse evidence.json" (readEvidenceFile K input)
  verifyEvidence K evidenceFile

end EvidenceFiles

end UnifiedAttestation.Csv
