import UnifiedAttestation.Csv.Verify
import UnifiedAttestation.Itrustee.Verify

/-! The collector of TEE evidence, which runs inside the guest.

The backends that are built in are tried one after another. Those of Hygon CSV hand a page
to the firmware through a C function, one per mode, and differ in how the page gets there.
What the devices and the native libraries do is part of the machine. The build is one for
Linux on x86_64.
-/

set_option autoImplicit false

namespace UnifiedAttestation.TeeEvidence

open Wire (Bytes Outcome bail ensure okOr orBail context utf8 fromUtf8)
open Json (Value Serde)
open Csv (TeeType HygonCsvEvidence)
open Itrustee (ItrusteeEvidence)
open Virtcca (VirtccaEvidence)

section Pages

def pageSize : Nat := 4096

/-- A page that is shared with the firmware. -/
structure Page where
  bytes : Bytes
  size : bytes.length = pageSize

/-- A cleared page with some bytes at its front. -/
def Page.fill (front : Bytes) : Page where
  bytes := (front ++ List.replicate pageSize 0).take pageSize
  size := by simp

def csvHashLen : Nat := 32
def csvGuestAttestationNonceSize : Nat := 16
def csvGuestAttestationDataSize : Nat := 64

/-- `sizeof(csv_cert_t)`. -/
def csvCertSize : Nat := 16 + (4 + 72 * 2 + 256) + 624 + 8 + 72 * 2 + 368 + 8 + 72 * 2 + 368

/-- `offsetof(csv_attestation_report_t, pek_cert)`. -/
def pekCertOffset : Nat := 32 + 16 + 16 + 64 + 16 + 32 + 4 + 4 + 4 + 4 + 72 * 2

def reserved2Offset : Nat := pekCertOffset + csvCertSize + 64

def macOffset : Nat := reserved2Offset + 32

/-- `sizeof(csv_attestation_report_t)`. -/
def csvAttestationReportSize : Nat := macOffset + csvHashLen

end Pages

section Machines

structure EvidenceRequest where
  uuid : Option String
  challenge : Bytes
  ima : Option Bool

/-- The features of a build; those of CSV exclude each other. -/
structure Build where
  csvKernel : Bool
  csvUser : Bool
  itrustee : Bool
  virtcca : Bool
  exclusive : ¬ (csvKernel = true ∧ csvUser = true)

/-- The machine that the collector runs on, and its libraries but for that of JSON. -/
structure Machine (J : Serde) where
  encodeStandard : Bytes → String
  encodeUrlSafe : Bytes → String
  decodeUrlSafe : Bytes → Except String Bytes
  sha256 : Bytes → Bytes
  utf8Error : Bytes → String
  debug : List String → String
  evpSm3 : Bytes → Option Bytes
  hmacSm3 (key data : Bytes) : Option Bytes
  mmap : Bool
  malloc : Bool
  vaToPa : Option Nat
  hypercall (pa : Nat) (page : Page) : Int × Page
  openGuest : Bool
  ioctl (page : Page) : Int × Page
  procModules : Option (List String)
  /-- `RemoteAttest`: what it returns, and what it leaves in the output buffer. -/
  remoteAttest (input : Bytes) : Nat × Bytes
  tsiDevice : Bool
  tsiContext : Bool
  attestationToken (challenge : Bytes) : Int × Bytes
  devCert : Int × Bytes
  ccel : Option Bytes

/-- `ima::read_ima_log_if_requested`. -/
def readImaLogIfRequested (_withIma : Bool) : Outcome (Option Bytes) := .ok none

def ensureChallengeLen (challenge : Bytes) (maxLen : Nat) : Outcome Unit :=
  ensure (challenge ≠ [] ∧ challenge.length ≤ maxLen)
    (.error [s!"challenge length is wrong, expecting 0 < len <= {maxLen}, got {challenge.length}"])

end Machines

section Values
variable {F : Type}

def bytesValue (bytes : Bytes) : Value F := .array (bytes.map fun byte => .int byte.toNat)

def optionValue {β : Type} (write : β → Value F) : Option β → Value F
  | none => .null
  | some value => write value

def csvMembers (evidence : HygonCsvEvidence) : Json.Map F := [
  ("mode", .string evidence.mode),
  ("report", .string evidence.report),
  ("nonce", .string evidence.nonce),
  ("ima_log", optionValue bytesValue evidence.imaLog)]

def itrusteeMembers (evidence : ItrusteeEvidence) : Json.Map F := [
  ("report", .string evidence.report),
  ("ima_log", optionValue bytesValue evidence.imaLog)]

def virtccaMembers (evidence : VirtccaEvidence) : Json.Map F := [
  ("evidence", bytesValue evidence.evidence),
  ("dev_cert", bytesValue evidence.devCert),
  ("ima_log", optionValue bytesValue evidence.imaLog),
  ("event_log", optionValue bytesValue evidence.eventLog)]

def requestMembers (request : EvidenceRequest) : Json.Map F := [
  ("uuid", optionValue .string request.uuid),
  ("challenge", bytesValue request.challenge),
  ("ima", optionValue .bool request.ima)]

def requestValue (request : EvidenceRequest) : Value F := .object (requestMembers request)

end Values

variable {J : Serde} (M : Machine J)

section Csv

/-- A digest of another size than 32 bytes is an error. -/
def csvSm3 (data : Bytes) : Option Bytes := (M.evpSm3 data).filter fun digest => digest.length = csvHashLen

def csvSm3Hmac (data key : Bytes) : Option Bytes :=
  (M.hmacSm3 key data).filter fun digest => digest.length = csvHashLen

/-- The certificate, the serial number and the reserved bytes are authenticated under the nonce. -/
def csvVerifySessionMac (report nonce : Bytes) : Bool :=
  csvSm3Hmac M ((report.drop pekCertOffset).take (macOffset - pekCertOffset)) nonce =
    some ((report.drop macOffset).take csvHashLen)

/-- The front of a `csv_attestation_user_data_t`. -/
def userData : Bytes := utf8 "user data" ++ List.replicate (csvGuestAttestationDataSize - 9) 0

/-- `memset(report.reserved2, 0, sizeof(report.reserved2))`. -/
def clearReserved2 (report : Bytes) : Bytes :=
  report.take reserved2Offset ++ List.replicate 32 0 ++ report.drop macOffset

/-- What both C functions do; `ask` hands the page to the firmware. A number is an error code. -/
def getAttestationReport (allocated : Bool) (ask : Page → Except Int Page) (bufLen : Nat) (nonce : Bytes) :
    Except Int Bytes := do
  ensure (nonce.length = csvGuestAttestationNonceSize) (-2)
  ensure (csvAttestationReportSize ≤ bufLen) (-2)
  ensure (allocated = true) (-3)
  let hash ← okOr (-4) (csvSm3 M (userData ++ nonce))
  let page ← ask (.fill (userData ++ nonce ++ hash))
  let report := page.bytes.take csvAttestationReportSize
  ensure (csvVerifySessionMac M report nonce = true) (-7)
  .ok (clearReserved2 report ++ List.replicate (bufLen - csvAttestationReportSize) 0)

/-- Through a hypercall, with the physical address of the page. -/
def askHypervisor (page : Page) : Except Int Page := do
  let pa ← okOr (-5) M.vaToPa
  let (ret, answer) := M.hypercall pa page
  ensure (ret = 0) (-6)
  .ok answer

/-- Through the driver of the guest. -/
def askDriver (page : Page) : Except Int Page := do
  ensure (M.openGuest = true) (-5)
  let (ret, answer) := M.ioctl page
  ensure (0 ≤ ret) (-6)
  .ok answer

def csvUserGetAttestationReport : Nat → Bytes → Except Int Bytes := getAttestationReport M M.mmap (askHypervisor M)

def csvKernelGetAttestationReport : Nat → Bytes → Except Int Bytes := getAttestationReport M M.malloc (askDriver M)

def explainCsvError (allocation translation call : String) (ret : Int) : String :=
  match ret with
  | -2 => "invalid report buffer or CSV nonce length"
  | -3 => allocation
  | -4 => "SM3 digest failed; check OpenSSL/GmSSL EVP_sm3 support"
  | -5 => translation
  | -6 => call
  | -7 => "report session MAC verification failed"
  | _ => "unknown C attestation failure"

def explainCsvUserError : Int → String := explainCsvError "mmap request page failed"
  ("failed to translate virtual address through /proc/self/pagemap; run as root/CAP_SYS_ADMIN or use " ++
    "csv-kernel-attester")
  ("vmmcall KVM_HC_VM_ATTESTATION failed; check that this is a Hygon CSV guest and user-mode attestation is " ++
    "supported")

def explainCsvKernelError : Int → String := explainCsvError "malloc request page failed"
  "failed to open /dev/csv-guest; load and mount the csv-guest driver or use csv-user-attester"
  "ioctl GET_ATTESTATION_REPORT failed; check csv-guest driver and Hygon CSV guest support"

def csvNonceLen : Nat := 16

def challengeToNonce (challenge : Bytes) : Outcome Bytes := do
  let challenge ← context "decode base64url challenge failed"
    ((M.decodeUrlSafe challenge).mapError fun err => .error [err])
  ensure (challenge ≠ []) (.error ["challenge cannot be empty"])
  .ok ((M.sha256 challenge).take csvNonceLen)

/-- The evidence of either mode. -/
def csvGetEvidence (mode : String) (getReport : Nat → Bytes → Except Int Bytes) (explain : Int → String)
    (request : EvidenceRequest) : Outcome HygonCsvEvidence := do
  let nonce ← challengeToNonce M request.challenge
  let report ← (getReport csvAttestationReportSize nonce).mapError fun ret =>
    .error [s!"hygon csv {mode}-mode attestation failed, ret:{ret}: {explain ret}"]
  let imaLog ← readImaLogIfRequested (request.ima.getD false)
  .ok { mode, report := M.encodeStandard report, nonce := M.encodeUrlSafe nonce, imaLog }

def csvUserGetEvidence : EvidenceRequest → Outcome HygonCsvEvidence :=
  csvGetEvidence M "user" (csvUserGetAttestationReport M) explainCsvUserError

def csvKernelGetEvidence : EvidenceRequest → Outcome HygonCsvEvidence :=
  csvGetEvidence M "kernel" (csvKernelGetAttestationReport M) explainCsvKernelError

end Csv

section Itrustee

def detectItrustee : Bool := (M.procModules.getD []).any fun line => "tzdriver".toList.isPrefixOf line.toList

def provisionText : String :=
  "\x7b\"handler\":\"provisioning-input\",\"payload\":\x7b\"version\":\"TEE.RA.1.0\"," ++
    "\"scenario\":\"sce_no_as\",\"hash_alg\":\"HS256\"\x7d\x7d"

def itrusteeProvision : Outcome Unit := do
  let provisionInput ← (J.fromStr provisionText).mapError fun err => .error [err]
  let (ret, _) := M.remoteAttest (utf8 (J.print provisionInput))
  ensure (ret = 0) (.error [s!"itrustee provision failed, ret:{ret}"])

def reportInput {F : Type} (nonce uuid : String) : Value F := .object [
  ("handler", .string "report-input"),
  ("payload", .object [
    ("version", .string "TEE.RA.1.0"),
    ("nonce", .string nonce),
    ("uuid", .string uuid),
    ("hash_alg", .string "HS256"),
    ("with_tcb", .bool false),
    ("request_key", .bool true)])]

/-- The nonce of the report: the challenge as it was sent, or with the hash of the log. -/
def reportNonce (withIma : Bool) (text challenge : Bytes) (imaLog : Option Bytes) : Outcome String :=
  if withIma then do
    let imaLog ← orBail "ima log is empty" imaLog
    .ok (M.encodeUrlSafe (challenge ++ M.sha256 imaLog))
  else okOr (.error ["challenge is not valid UTF-8", M.utf8Error text]) (fromUtf8 text)

def trimNul (report : Bytes) : Bytes := report.rdropWhile (· == 0)

def itrusteeGetEvidence (request : EvidenceRequest) : Outcome ItrusteeEvidence := do
  let challenge ← context "decode base64url challenge failed"
    ((M.decodeUrlSafe request.challenge).mapError fun err => .error [err])
  let withIma := request.ima.getD false
  ensureChallengeLen challenge (if withIma then 32 else 64)
  let imaLog ← readImaLogIfRequested withIma
  let nonce ← reportNonce M withIma request.challenge challenge imaLog
  let uuid ← orBail "itrustee evidence request requires uuid" request.uuid
  let (ret, output) := M.remoteAttest (utf8 (J.print (reportInput nonce uuid)))
  ensure (ret = 0) (.error [s!"itrustee get report failed, ret:{ret}"])
  let report := trimNul output
  let report ← okOr (.error ["itrustee report is not valid UTF-8", M.utf8Error report]) (fromUtf8 report)
  .ok { report, imaLog }

def itrusteeTeeGetEvidence (request : EvidenceRequest) : Outcome ItrusteeEvidence := do
  context "itrustee attester provision failed" (itrusteeProvision M)
  itrusteeGetEvidence M request

end Itrustee

section Virtcca

def virtccaGetToken (request : EvidenceRequest) : Outcome VirtccaEvidence := do
  let challenge ← (M.decodeUrlSafe request.challenge).mapError fun err => .error [err]
  ensureChallengeLen challenge 64
  ensure (M.tsiContext = true) (.error ["virtcca tsi_new_ctx returned null"])
  let (ret, evidence) := M.attestationToken challenge
  ensure (ret = 0) (.error [s!"virtcca get attestation token failed {ret}"])
  let (ret, devCert) := M.devCert
  ensure (ret = 0) (.error [s!"get dev cert failed {ret}"])
  let imaLog ← readImaLogIfRequested (request.ima.getD false)
  .ok { evidence, devCert, imaLog, eventLog := M.ccel }

end Virtcca

section Attester

/-- Evidence of one kind. -/
inductive Collected where
  | csvUser (evidence : HygonCsvEvidence)
  | csvKernel (evidence : HygonCsvEvidence)
  | itrustee (evidence : ItrusteeEvidence)
  | virtcca (evidence : VirtccaEvidence)

def Collected.tee : Collected → TeeType
  | .csvUser _ => .hygonCsvUser
  | .csvKernel _ => .hygonCsvKernel
  | .itrustee _ => .itrustee
  | .virtcca _ => .virtcca

def Collected.members {F : Type} : Collected → Json.Map F
  | .csvUser evidence | .csvKernel evidence => csvMembers evidence
  | .itrustee evidence => itrusteeMembers evidence
  | .virtcca evidence => virtccaMembers evidence

/-- A backend that is built in and finds its platform; an error goes to the others. -/
def attempt (enabled : Bool) (label : String) (run : Outcome Collected) (errors : List String)
    (others : List String → Outcome Collected) : Outcome Collected :=
  if enabled then
    match run with
    | .ok collected => .ok collected
    | .error .panic => .error .panic
    | .error (.error chain) => others (errors ++ [label ++ " failed: " ++ ": ".intercalate chain])
  else others errors

def noBackend (build : Build) (errors : List String) : Outcome Collected :=
  if errors ≠ [] then bail ("TEE platform was detected but evidence generation failed: " ++ M.debug errors)
  else if build.csvKernel || build.csvUser || build.itrustee || build.virtcca then
    bail "unknown tee platform: no enabled attester backend detected this machine"
  else bail ("no attester backend was enabled; run with --features itrustee-attester, virtcca-attester, " ++
    "csv-user-attester, or csv-kernel-attester")

/-- The backends in the order in which they are tried. -/
def collect (build : Build) (request : EvidenceRequest) : Outcome Collected :=
  attempt build.csvKernel "hygon csv kernel" ((csvKernelGetEvidence M request).map .csvKernel) [] fun errors =>
  attempt build.csvUser "hygon csv user" ((csvUserGetEvidence M request).map .csvUser) errors fun errors =>
  attempt (build.itrustee && detectItrustee M) "itrustee" ((itrusteeTeeGetEvidence M request).map .itrustee) errors
    fun errors =>
  attempt (build.virtcca && M.tsiDevice) "virtcca" ((virtccaGetToken M request).map .virtcca) errors fun errors =>
  noBackend M build errors

/-- An evidence file; the evidence is a text of its own. -/
def fileMembers (J : Serde) (request : EvidenceRequest) (collected : Collected) : Json.Map J.Float := [
  ("tee", .string collected.tee.name),
  ("request", requestValue request),
  ("evidence", .string (J.print (.object collected.members)))]

/-- `Attester::tee_get_evidence`. -/
def teeGetEvidence (build : Build) (request : EvidenceRequest) : Outcome Bytes :=
  (collect M build request).map fun collected => J.toVec (.object (fileMembers J request collected))

end Attester

section Main

def defaultUuid : String := "f68fd704-6eb1-4d14-b218-722850eb3ef0"

/-- A challenge of 16 random bytes for CSV and of 64 for the others. -/
def defaultEvidenceRequest (build : Build) (random : Nat → Bytes) : EvidenceRequest :=
  if build.csvUser || build.csvKernel then ⟨none, utf8 (M.encodeUrlSafe (random 16)), none⟩
  else ⟨if build.itrustee then some defaultUuid else none, utf8 (M.encodeUrlSafe (random 64)), none⟩

/-- The default request passes the checks on requests: every backend takes the length of the
challenge, and iTrustee has its UUID unless the build is one for CSV. -/
theorem defaultEvidenceRequest_checked {build : Build} {random : Nat → Bytes}
    (decodes : ∀ bytes, M.decodeUrlSafe (utf8 (M.encodeUrlSafe bytes)) = .ok bytes)
    (draws : ∀ count, (random count).length = count) :
    (∃ challenge, M.decodeUrlSafe (defaultEvidenceRequest M build random).challenge = .ok challenge ∧
        ensureChallengeLen challenge 64 = .ok ()) ∧
      (∃ nonce, challengeToNonce M (defaultEvidenceRequest M build random).challenge = .ok nonce) ∧
      (build.itrustee = true → build.csvUser = true ∨ build.csvKernel = true ∨
        (defaultEvidenceRequest M build random).uuid.isSome = true) := by
  obtain ⟨count, positive, fits, sent⟩ : ∃ count, 0 < count ∧ count ≤ 64 ∧
      (defaultEvidenceRequest M build random).challenge = utf8 (M.encodeUrlSafe (random count)) := by
    rw [defaultEvidenceRequest]
    split
    · exact ⟨16, by decide, by decide, rfl⟩
    · exact ⟨64, by decide, by decide, rfl⟩
  have length := draws count
  have given : random count ≠ [] := List.ne_nil_of_length_pos (length.symm ▸ positive)
  refine ⟨⟨random count, by rw [sent, decodes], ?_⟩, ⟨(M.sha256 (random count)).take csvNonceLen, ?_⟩, fun built => ?_⟩
  · rw [ensureChallengeLen, ensure, if_pos ⟨given, length.trans_le fits⟩]
  · simp only [challengeToNonce, sent, decodes, Except.mapError, context, ensure, given, ne_eq, not_false_eq_true, if_true,
      bind, Except.bind]
  · rw [defaultEvidenceRequest]
    cases user : build.csvUser with
    | true => exact .inl rfl
    | false =>
      cases kernel : build.csvKernel with
      | true => exact .inr (.inl rfl)
      | false => simp [built]

/-- The evidence text of a file is replaced by what it reads as. -/
def expandEvidence (J : Serde) (file : Value J.Float) : Value J.Float :=
  match file.get "evidence", file with
  | some (.string text), .object members =>
    match J.fromStr text with
    | .ok inner => .object (Json.Map.insert members "evidence" inner)
    | .error _ => file
  | _, _ => file

/-- What `main` writes to `evidence.json`. -/
def main (build : Build) (request : EvidenceRequest) : Outcome Bytes := do
  let evidence ← context "get TEE evidence failed" (teeGetEvidence M build request)
  let file ← context "evidence is not valid JSON" ((J.fromSlice evidence).mapError fun err => .error [err])
  .ok (J.toVec (expandEvidence J file))

end Main

end UnifiedAttestation.TeeEvidence
