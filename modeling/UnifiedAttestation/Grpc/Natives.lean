import UnifiedAttestation.Json.Value
import Mathlib.Data.List.DropRight

/-! What the gRPC verifier does with evidence on the host, before any component
sees it: checking CCA and CSV evidence natively, reading fields out of iTrustee
and VirtCCA evidence, and writing the results into the evidence JSON.

`Crates` holds the functions of the crates the host calls, `World` what files and
servers answer while one request is handled. Log lines are left out.
-/

set_option autoImplicit false

namespace UnifiedAttestation.Grpc

open Wire (Bytes utf8 fromUtf8 toBeBytes okOr ensure)
open Json (Value Serde)

section Texts

def hexDigits : String := "0123456789abcdef"

def hexDigit (n : Nat) : Char := hexDigits.toList.getD n '0'

def hexEncode (bytes : Bytes) : String :=
  String.ofList (bytes.flatMap fun byte => [hexDigit (byte.toNat / 16), hexDigit (byte.toNat % 16)])

def hexValue (digit : Char) : Option Nat :=
  if digit.toLower ∈ hexDigits.toList then some (hexDigits.toList.idxOf digit.toLower) else none

def hexPairs : List Char → Option Bytes
  | [] => some []
  | [_] => none
  | high :: low :: rest => do
    let high ← hexValue high
    let low ← hexValue low
    let bytes ← hexPairs rest
    some (UInt8.ofNat (16 * high + low) :: bytes)

def hexDecode (text : String) : Option Bytes := hexPairs text.toList

def eqIgnoreAsciiCase (first second : String) : Bool :=
  first.toList.map Char.toLower == second.toList.map Char.toLower

theorem hexValue_eq_some {digit : Char} {n : Nat} :
    hexValue digit = some n ↔ n < 16 ∧ digit.toLower = hexDigit n := by
  have distinct : hexDigits.toList.Nodup := by decide
  have sixteen : hexDigits.toList.length = 16 := by decide
  simp only [hexValue, Option.ite_none_right_eq_some, Option.some.injEq, hexDigit]
  constructor
  · rintro ⟨listed, rfl⟩
    have below := List.idxOf_lt_length_of_mem listed
    refine ⟨sixteen ▸ below, ?_⟩
    rw [List.getD_eq_getElem?_getD, List.getElem?_eq_getElem below, Option.getD_some, List.getElem_idxOf]
  · rintro ⟨small, same⟩
    have below : n < hexDigits.toList.length := sixteen ▸ small
    rw [same, List.getD_eq_getElem?_getD, List.getElem?_eq_getElem below, Option.getD_some]
    exact ⟨List.getElem_mem below, distinct.idxOf_getElem n below⟩

theorem hexPairs_eq_some {digits : List Char} {bytes : Bytes} :
    hexPairs digits = some bytes ↔ digits.map Char.toLower =
      bytes.flatMap fun byte => [hexDigit (byte.toNat / 16), hexDigit (byte.toNat % 16)] := by
  induction digits using hexPairs.induct generalizing bytes with
  | case1 => cases bytes <;> simp [hexPairs]
  | case2 digit => cases bytes <;> simp [hexPairs]
  | case3 high low rest ih =>
    simp only [hexPairs, Option.bind_eq_bind, Option.bind_eq_some_iff, Option.some.injEq]
    constructor
    · rintro ⟨h, isHigh, l, isLow, tail, decoded, rfl⟩
      obtain ⟨smallHigh, sameHigh⟩ := hexValue_eq_some.mp isHigh
      obtain ⟨smallLow, sameLow⟩ := hexValue_eq_some.mp isLow
      have byte : (UInt8.ofNat (16 * h + l)).toNat = 16 * h + l := by
        rw [UInt8.toNat_ofNat']
        omega
      have upper : (16 * h + l) / 16 = h := by omega
      have lower : (16 * h + l) % 16 = l := by omega
      simp only [List.map_cons, List.flatMap_cons, byte, upper, lower, sameHigh, sameLow, ih.mp decoded,
        List.cons_append, List.nil_append]
    · intro same
      cases bytes with
      | nil => simp at same
      | cons byte tail =>
        simp only [List.map_cons, List.flatMap_cons, List.cons_append, List.nil_append, List.cons.injEq] at same
        obtain ⟨sameHigh, sameLow, sameRest⟩ := same
        have small := byte.toNat_lt
        refine ⟨byte.toNat / 16, hexValue_eq_some.mpr ⟨by omega, sameHigh⟩, byte.toNat % 16,
          hexValue_eq_some.mpr ⟨by omega, sameLow⟩, tail, ih.mpr sameRest, ?_⟩
        rw [Nat.div_add_mod, UInt8.ofNat_toNat]

/-- The texts that decode to a byte string are its hex text in any letter case. -/
theorem hexDecode_eq_some {text : String} {bytes : Bytes} :
    hexDecode text = some bytes ↔ eqIgnoreAsciiCase text (hexEncode bytes) = true := by
  have lowered : ∀ n : Fin 256, [hexDigit (n.val / 16), hexDigit (n.val % 16)].map Char.toLower =
      [hexDigit (n.val / 16), hexDigit (n.val % 16)] := by
    decide +kernel
  simp only [hexDecode, hexPairs_eq_some, eqIgnoreAsciiCase, beq_iff_eq, hexEncode, String.toList_ofList,
    List.map_flatMap]
  have each : (fun byte : UInt8 => [hexDigit (byte.toNat / 16), hexDigit (byte.toNat % 16)].map Char.toLower) =
      fun byte => [hexDigit (byte.toNat / 16), hexDigit (byte.toNat % 16)] :=
    funext fun byte => lowered ⟨byte.toNat, byte.toNat_lt⟩
  rw [each]

theorem hexPairs_length {digits : List Char} {bytes : Bytes} (decoded : hexPairs digits = some bytes) :
    2 * bytes.length = digits.length := by
  have lengths := congrArg List.length (hexPairs_eq_some.mp decoded)
  rw [List.length_map, List.length_flatMap] at lengths
  simp only [List.length_cons, List.length_nil, List.map_const', List.sum_replicate_nat] at lengths
  omega

theorem hexPairs_isSome {digits : List Char} (even : digits.length % 2 = 0)
    (hex : ∀ digit ∈ digits, digit.toLower ∈ hexDigits.toList) : (hexPairs digits).isSome = true := by
  induction digits using hexPairs.induct with
  | case1 => rfl
  | case2 digit => simp at even
  | case3 high low rest ih =>
    have later := ih (by rw [List.length_cons, List.length_cons] at even; omega) (fun digit held => hex digit (by simp [held]))
    obtain ⟨tail, decoded⟩ := Option.isSome_iff_exists.mp later
    simp [hexPairs, hexValue, hex high (by simp), hex low (by simp), decoded]

/-- `Vec::resize` with zero bytes: a longer vector is cut. -/
def resize (bytes : Bytes) (size : Nat) : Bytes := bytes.take size ++ List.replicate (size - bytes.length) 0

theorem resize_length (bytes : Bytes) (size : Nat) : (resize bytes size).length = size := by
  simp only [resize, List.length_append, List.length_take, List.length_replicate]
  omega

def trimEndNul (text : String) : String := String.ofList (text.toList.rdropWhile fun char => char = Char.ofNat 0)

/-- `Path::join`: an absolute path replaces the base. -/
def join (base part : String) : String :=
  if part.startsWith "/" then part
  else if base.isEmpty || base.endsWith "/" then base ++ part
  else base ++ "/" ++ part

end Texts

/-- One software component of a CCA platform token. -/
structure SwComponent where
  mval : Bytes
  signerId : Bytes
  mtyp : Option String
  version : Option String

/-- The fields of a TD report that the appraiser reads. -/
structure TdReport where
  mrTd : Bytes
  mrSeam : Bytes
  mrSignerSeam : Bytes
  mrConfigId : Bytes
  reportData : Bytes
  reportData_length : reportData.length = 64

structure VerifiedReport where
  status : String
  advisoryIds : List String

/-- The crates the host and the appraisers call. -/
structure Crates where
  json : Serde
  decodeBase64 : String → Except String Bytes
  encodeBase64 : Bytes → String
  encodeBase64Url : Bytes → String
  -- ccatoken
  TrustAnchors : Type
  RefValues : Type
  CcaEvidence : Type
  decodeCca : Bytes → Except String CcaEvidence
  verifyCca : TrustAnchors → CcaEvidence → Except String CcaEvidence
  appraiseCca : RefValues → CcaEvidence → Except String CcaEvidence
  realmAffirming : CcaEvidence → Bool
  challenge : CcaEvidence → Bytes
  rim : CcaEvidence → Bytes
  perso : CcaEvidence → Bytes
  instId : CcaEvidence → Bytes
  implId : CcaEvidence → Bytes
  lifecycle : CcaEvidence → UInt16
  swComponents : CcaEvidence → List SwComponent
  -- csv_rs, and the root certificate kept with the verifier
  ReportWrapper : Type
  AttestationReport : Type
  CaCert : Type
  CsvCert : Type
  readWrapper : Value json.Float → Option ReportWrapper
  readCaCert : Value json.Float → Option CaCert
  readCsvCert : Value json.Float → Option CsvCert
  decodeCa : Bytes → Except String (CaCert × Bytes)
  decodeCsv : Bytes → Except String (CsvCert × Bytes)
  report : ReportWrapper → Except String AttestationReport
  caSignsCa : CaCert → CaCert → Except String Unit
  caSignsCsv : CaCert → CsvCert → Except String Unit
  csvSignsCsv : CsvCert → CsvCert → Except String Unit
  csvSignsReport : CsvCert → AttestationReport → Except String Unit
  reportData : AttestationReport → Bytes
  measure : AttestationReport → Bytes
  vmVersion : AttestationReport → Bytes
  nodbg : AttestationReport → Nat
  noks : AttestationReport → Nat
  HRK : Bytes
  -- dcap_qvl
  Collateral : Type
  printCollateral : Collateral → Except String Bytes
  readCollateral : Bytes → Except String Collateral
  verifyQuote : Bytes → Collateral → Nat → Except String VerifiedReport
  parseQuote : Bytes → Except String (Option TdReport)

/-- Files, servers and clocks while one request is handled. -/
structure World (K : Crates) where
  readFile : String → Option Bytes
  fetch : String → Except String Bytes
  getCollateral : String → Bytes → Except String K.Collateral
  injectedAt : Int
  issuedAt : Int
  expiresAt : Int

section Cca
variable (K : Crates)

structure CcaVerificationResult where
  realmInitialMeasurement : Option String
  realmPersonalizationValue : Option String
  ccaPlatformInstanceId : Option String
  ccaPlatformImplementationId : Option String
  ccaPlatformLifecycle : Option String
  ccaPlatformSwComponents : Option (List (Value K.json.Float))

structure CcaVerifier where
  tas : K.TrustAnchors
  rvs : K.RefValues

def lifecycleName (code : UInt16) : String :=
  if code = 0x6000 ∨ code = 0x6001 then "secured"
  else if code = 0x3000 ∨ code = 0x3001 then "recoverable"
  else if code ≤ 0x00ff then "not_secured"
  else "0x" ++ hexEncode (toBeBytes 2 code.toNat)

def optionalText : Option String → Value K.json.Float
  | some text => .string text
  | none => .null

def swComponentJson (component : SwComponent) : Value K.json.Float :=
  .object [
    ("measurement", .string (hexEncode component.mval)),
    ("signer_id", .string (hexEncode component.signerId)),
    ("measurement_type", optionalText K component.mtyp),
    ("version", optionalText K component.version)]

/-- `None` for an empty byte string, its hex text otherwise. -/
def hexUnlessEmpty (bytes : Bytes) : Option String := if bytes.isEmpty then none else some (hexEncode bytes)

/-- What `CcaVerifier::verify` returns of the evidence it accepts. -/
def ccaResult (e : K.CcaEvidence) : CcaVerificationResult K where
  realmInitialMeasurement := hexUnlessEmpty (K.rim e)
  realmPersonalizationValue := hexUnlessEmpty (K.perso e)
  ccaPlatformInstanceId := some (hexEncode (K.instId e))
  ccaPlatformImplementationId := some (hexEncode (K.implId e))
  ccaPlatformLifecycle := some (lifecycleName (K.lifecycle e))
  ccaPlatformSwComponents :=
    if (K.swComponents e).isEmpty then none else some ((K.swComponents e).map (swComponentJson K))

variable {K}

def CcaVerifier.verify (verifier : CcaVerifier K) (token expectedReportData : Bytes) :
    Except String (CcaVerificationResult K) := do
  let e ← (K.decodeCca token).mapError fun err => s!"decode CCA token: {err}"
  let e ← (K.verifyCca verifier.tas e).mapError fun err => s!"verify CCA evidence: {err}"
  let e ← (K.appraiseCca verifier.rvs e).mapError fun err => s!"appraise CCA evidence: {err}"
  ensure (K.realmAffirming e = true) "CCA RAK signature or RAK attestation could not be verified"
  ensure (expectedReportData = K.challenge e) "CCA realm token challenge does not match expected_report_data"
  .ok (ccaResult K e)

/-- The evidence inside an accepted token is a function of the token and the stores. -/
def CcaVerifier.opened (verifier : CcaVerifier K) (token : Bytes) : Except String K.CcaEvidence :=
  K.decodeCca token >>= K.verifyCca verifier.tas >>= K.appraiseCca verifier.rvs

theorem CcaVerifier.verify_ok {verifier : CcaVerifier K} {token expected : Bytes} {result : CcaVerificationResult K}
    (accepted : verifier.verify token expected = .ok result) :
    ∃ e, verifier.opened token = .ok e ∧ K.realmAffirming e = true ∧ K.challenge e = expected ∧
      result = ccaResult K e := by
  simp only [verify, Wire.bind_eq_ok, Wire.mapError_eq_ok, Wire.ensure_eq_ok] at accepted
  obtain ⟨decoded, decodes, verified, verifies, e, appraises, _, affirming, _, same, rest⟩ := accepted
  have opened : verifier.opened token = .ok e := by
    simp only [CcaVerifier.opened, Wire.bind_eq_ok]
    exact ⟨verified, ⟨decoded, decodes, verifies⟩, appraises⟩
  exact ⟨e, opened, affirming, same.symm, (Except.ok.inj rest).symm⟩

variable (K) in
/-- Write the results that exist into the evidence. -/
def injectCcaClaims (obj : Json.Map K.json.Float) (result : CcaVerificationResult K) : Json.Map K.json.Float :=
  let obj := Json.Map.insertSome obj "cca_realm_initial_measurement" (result.realmInitialMeasurement.map .string)
  let obj := Json.Map.insertSome obj "cca_realm_personalization_value" (result.realmPersonalizationValue.map .string)
  let obj := Json.Map.insertSome obj "cca_platform_instance_id" (result.ccaPlatformInstanceId.map .string)
  let obj := Json.Map.insertSome obj "cca_platform_implementation_id" (result.ccaPlatformImplementationId.map .string)
  let obj := Json.Map.insertSome obj "cca_platform_lifecycle" (result.ccaPlatformLifecycle.map .string)
  Json.Map.insertSome obj "cca_platform_sw_components" (result.ccaPlatformSwComponents.map .array)

end Cca

section Csv
variable (K : Crates)

structure CsvPolicy where
  certDir : String
  allowKdsFetch : Bool
  trustedChipIds : List String

structure HskCek where
  hsk : K.CaCert
  cek : K.CsvCert

structure CertificateChain where
  hskCek : Option (HskCek K)
  pek : K.CsvCert

structure CsvEvidenceJson where
  attestationReport : K.ReportWrapper
  certChain : CertificateChain K
  serialNumber : Bytes

structure CsvVerificationResult where
  chipId : Option String
  measurement : Option String
  vmVersion : Option String
  policyNodbg : Option Nat
  policyNoks : Option Nat

variable {K}

def readHskCek (value : Value K.json.Float) : Option (HskCek K) := do
  let field ← value.fields ["hsk", "cek"]
  let hsk ← (field "hsk").bind K.readCaCert
  let cek ← (field "cek").bind K.readCsvCert
  some { hsk, cek }

def readCertificateChain (value : Value K.json.Float) : Option (CertificateChain K) := do
  let field ← value.fields ["hsk_cek", "pek"]
  let hskCek ← Value.optional readHskCek (field "hsk_cek")
  let pek ← (field "pek").bind K.readCsvCert
  some { hskCek, pek }

def readCsvEvidenceJson (value : Value K.json.Float) : Option (CsvEvidenceJson K) := do
  let field ← value.fields ["attestation_report", "cert_chain", "serial_number"]
  let attestationReport ← (field "attestation_report").bind K.readWrapper
  let certChain ← (field "cert_chain").bind readCertificateChain
  let serialNumber ← (field "serial_number").bind Value.asBytes
  some { attestationReport, certChain, serialNumber }

def verifyChain (report : K.AttestationReport) (hsk : K.CaCert) (cek pek : K.CsvCert) : Except String Unit := do
  let hrk ← (K.decodeCa K.HRK).mapError fun e => s!"decode HRK: {e}"
  (K.caSignsCa hrk.1 hrk.1).mapError fun e => s!"HRK self-sign: {e}"
  (K.caSignsCa hrk.1 hsk).mapError fun e => s!"HSK signed by HRK: {e}"
  (K.caSignsCsv hsk cek).mapError fun e => s!"CEK signed by HSK: {e}"
  (K.csvSignsCsv cek pek).mapError fun e => s!"PEK signed by CEK: {e}"
  (K.csvSignsReport pek report).mapError fun e => s!"report signed by PEK: {e}"

/-- The offline cache first, then the key server if that is allowed. -/
def CsvPolicy.loadHskCek (policy : CsvPolicy) (W : World K) (chipId : String) : Except String Bytes :=
  let path := join (join (join policy.certDir "hsk_cek") chipId) "hsk_cek.cert"
  match W.readFile path with
  | some bytes => .ok bytes
  | none => do
    ensure (policy.allowKdsFetch = true) s!"HSK/CEK not found at {path} and policy.csv.allow_kds_fetch=false"
    W.fetch s!"https://cert.hygon.cn/hsk_cek?snumber={chipId}"

/-- The pair bundled with the evidence, or else a pair obtained for the chip. -/
def CsvPolicy.resolveHskCek (policy : CsvPolicy) (W : World K) (chipId : String) :
    Option (HskCek K) → Except String (HskCek K)
  | some bundled => .ok bundled
  | none => do
    let certData ← (policy.loadHskCek W chipId).mapError fun _ => s!"load HSK/CEK for chip {chipId}"
    let hsk ← (K.decodeCa certData).mapError fun e => s!"decode HSK: {e}"
    let cek ← (K.decodeCsv hsk.2).mapError fun e => s!"decode CEK: {e}"
    .ok { hsk := hsk.1, cek := cek.1 }

/-- What `CsvVerifier::verify` returns of the report it accepts. -/
def csvResult (chipId : String) (report : K.AttestationReport) : CsvVerificationResult where
  chipId := some chipId
  measurement := hexUnlessEmpty (K.measure report)
  vmVersion := some (hexEncode (K.vmVersion report))
  policyNodbg := some (K.nodbg report)
  policyNoks := some (K.noks report)

/-- The parts of a CSV evidence text that depend on nothing else: the envelope, the
report in it and the chip id. -/
def openCsv (evidence : Bytes) : Except String (CsvEvidenceJson K × K.AttestationReport × String) := do
  let parsed ← (K.json.fromSliceAs readCsvEvidenceJson evidence).mapError fun _ => "decode CSV evidence JSON"
  let report ← (K.report parsed.attestationReport).mapError fun e => s!"parse CSV attestation report: {e}"
  let serial ← okOr "decode serial_number" (fromUtf8 parsed.serialNumber)
  .ok (parsed, report, trimEndNul serial)

def CsvPolicy.verify (policy : CsvPolicy) (W : World K) (evidence expectedReportData : Bytes) :
    Except String CsvVerificationResult := do
  let opened ← openCsv (K := K) evidence
  let parsed := opened.1
  let report := opened.2.1
  let chipId := opened.2.2
  let pair ← policy.resolveHskCek W chipId parsed.certChain.hskCek
  verifyChain report pair.hsk pair.cek parsed.certChain.pek
  ensure (resize expectedReportData 64 = K.reportData report) "CSV report_data does not match expected nonce"
  ensure (policy.trustedChipIds = [] ∨ chipId ∈ policy.trustedChipIds) s!"CSV chip_id '{chipId}' not in trusted list"
  .ok (csvResult chipId report)

theorem CsvPolicy.verify_ok {policy : CsvPolicy} {W : World K} {evidence expected : Bytes}
    {result : CsvVerificationResult} (accepted : policy.verify W evidence expected = .ok result) :
    ∃ parsed report chipId, openCsv (K := K) evidence = .ok (parsed, report, chipId) ∧
      K.reportData report = resize expected 64 ∧ result = csvResult chipId report := by
  simp only [verify, Wire.bind_eq_ok, Wire.ensure_eq_ok] at accepted
  obtain ⟨⟨parsed, report, chipId⟩, opened, _, _, _, _, _, bound, _, _, rest⟩ := accepted
  exact ⟨parsed, report, chipId, opened, bound.symm, (Except.ok.inj rest).symm⟩

variable (K) in
def injectCsvClaims (obj : Json.Map K.json.Float) (result : CsvVerificationResult) : Json.Map K.json.Float :=
  let obj := Json.Map.insertSome obj "chip_id" (result.chipId.map .string)
  let obj := Json.Map.insertSome obj "measurement" (result.measurement.map .string)
  let obj := Json.Map.insertSome obj "vm_version" (result.vmVersion.map .string)
  let obj := Json.Map.insertSome obj "policy_nodbg" (result.policyNodbg.map fun n => .int n)
  Json.Map.insertSome obj "policy_noks" (result.policyNoks.map fun n => .int n)

end Csv

section Fields
variable (K : Crates)

structure ItrusteeVerificationResult where
  uuid : Option String
  taImg : Option String
  taMem : Option String
  hashAlg : Option String
  version : Option String

/-- The text under a key of the payload of an iTrustee report. -/
def payloadText (report : Value K.json.Float) (key : String) : Option String :=
  ((report.get "payload").bind fun payload => payload.get key).bind Value.asStr

def itrusteeResult (report : Value K.json.Float) : ItrusteeVerificationResult where
  uuid := payloadText K report "uuid"
  taImg := payloadText K report "ta_img"
  taMem := payloadText K report "ta_mem"
  hashAlg := payloadText K report "hash_alg"
  version := payloadText K report "version"

def itrusteeExtractClaims (evidence : Bytes) : Except String ItrusteeVerificationResult := do
  let ev ← (K.json.fromSlice evidence).mapError fun _ => "parse itrustee evidence JSON"
  let reportStr ← okOr "evidence.report missing or not a string" ((ev.get "report").bind Value.asStr)
  let report ← (K.json.fromStr reportStr).mapError fun _ => "parse itrustee report JSON"
  .ok (itrusteeResult K report)

def injectItrusteeClaims (obj : Json.Map K.json.Float) (result : ItrusteeVerificationResult) :
    Json.Map K.json.Float :=
  let obj := Json.Map.insertSome obj "itrustee_uuid" (result.uuid.map .string)
  let obj := Json.Map.insertSome obj "itrustee_ta_img" (result.taImg.map .string)
  let obj := Json.Map.insertSome obj "itrustee_ta_mem" (result.taMem.map .string)
  let obj := Json.Map.insertSome obj "itrustee_hash_alg" (result.hashAlg.map .string)
  Json.Map.insertSome obj "itrustee_version" (result.version.map .string)

structure VirtccaVerificationResult where
  tokenSize : Nat
  certSize : Nat
  imaLogSize : Option Nat
  eventLogSize : Option Nat

def arraySize (ev : Value K.json.Float) (key : String) : Option Nat :=
  ((ev.get key).bind Value.asArray).map List.length

def virtccaExtractClaims (evidence : Bytes) : Except String VirtccaVerificationResult := do
  let ev ← K.json.fromSlice evidence
  .ok {
    tokenSize := (arraySize K ev "evidence").getD 0
    certSize := (arraySize K ev "dev_cert").getD 0
    imaLogSize := arraySize K ev "ima_log"
    eventLogSize := arraySize K ev "event_log" }

def injectVirtccaClaims (obj : Json.Map K.json.Float) (result : VirtccaVerificationResult) : Json.Map K.json.Float :=
  let obj := Json.Map.insert obj "virtcca_token_size" (.int result.tokenSize)
  let obj := Json.Map.insert obj "virtcca_cert_size" (.int result.certSize)
  let obj := Json.Map.insertSome obj "virtcca_ima_log_size" (result.imaLogSize.map fun n => .int n)
  Json.Map.insertSome obj "virtcca_event_log_size" (result.eventLogSize.map fun n => .int n)

end Fields

end UnifiedAttestation.Grpc
