import UnifiedAttestation.Csv.Verify
import UnifiedAttestation.Grpc.Reference

/-! What stands above the certificate of an accepted CSV report.

The report is always signed under its embedded certificate. Where an HSK and a CEK are
available, that certificate hangs below them; where none are, nothing is checked above it.
They are those of the reported chip unless a file of the operator comes first.
-/

set_option autoImplicit false

namespace UnifiedAttestation.Csv

open Wire (Bytes Outcome utf8)
open Grpc (hexEncode)

variable {K : Crates}

section Chained

/-- The report in an evidence file. -/
structure Reported (K : Crates) (input : Bytes) (report : CsvReport) : Prop where
  parts : ∃ file evidence reportBytes, readEvidenceFile K input = .ok file ∧
    K.csvEvidence (evidenceToBytes K file.evidence) = .ok evidence ∧
    K.decodeStandard (utf8 evidence.report) = .ok reportBytes ∧ CsvReport.parse reportBytes = .ok report

/-- Each certificate is of its kind and is signed under the one above it, the first under
the embedded key. -/
structure Chains (K : Crates) (hsk cek pek : Bytes) : Prop where
  hskUsage : u32AtLe hsk rootCertKeyUsageOffset = keyUsageTypeHsk
  cekUsage : u32AtLe cek csvCertPubkeyUsageOffset = keyUsageTypeCek
  pekUsage : u32AtLe pek csvCertPubkeyUsageOffset = keyUsageTypePek
  hskSigned : verifySignature K.openSsl (hsk.take rootCertSignedSize)
    ⟨window hsk rootCertSignatureOffset eccSignatureSize⟩ ⟨hrkPubkey⟩ = .ok ()
  cekSigned : verifySignature K.openSsl (cek.take csvCertSignedSize)
    ⟨window cek csvCertSig1Offset eccSignatureSize⟩ ⟨window hsk rootCertPubkeyOffset eccPubkeySize⟩ = .ok ()
  pekSigned : verifySignature K.openSsl (pek.take csvCertSignedSize)
    ⟨window pek csvCertSig1Offset eccSignatureSize⟩ ⟨window cek csvCertPubkeyOffset eccPubkeySize⟩ = .ok ()

/-- Where an HSK and a CEK come from. -/
inductive Source where
  | file (path : String)
  | server (url : String)

/-- The file of a chip in the directory of the devkit. -/
def chipFile (chipId : String) : String := joinPath (joinPath hskCekDefaultDir chipId) hskCekCertFile

def chipUrl (chipId : String) : String := hygonKdsServerSite ++ chipId

/-- The files of the operator, which are looked for before that of the chip. -/
def operatorFiles (K : Crates) : List String := (K.env "HYGON_HSK_CEK_CERT").toList ++ [hskCekCertFile]

/-- The HSK and the CEK that a machine has for a chip: in the first file that is there, or
else what the key server answers. -/
inductive Available (K : Crates) (chipId : String) : Source → Bytes → Prop where
  | file {path : String} {content : Bytes} :
      (hskCekCandidatePaths K chipId).find? K.fileExists = some path → K.read path = .ok content →
      Available K chipId (.file path) (content.take (rootCertSize + csvCertSize))
  | server {stdout : Bytes} :
      (hskCekCandidatePaths K chipId).find? K.fileExists = none → K.env "HYGON_CSV_DOWNLOAD_CERTS" ≠ some "0" →
      K.curl (chipUrl chipId) = some ⟨true, stdout⟩ →
      Available K chipId (.server (chipUrl chipId)) (stdout.take (rootCertSize + csvCertSize))

/-- The source was looked up for the chip. -/
def Source.OfChip (chipId : String) (source : Source) : Prop :=
  source = .file (chipFile chipId) ∨ source = .server (chipUrl chipId)

/-- The certificate of a report hangs below an HSK and a CEK. -/
def ChainedBelow (K : Crates) (report : CsvReport) (hskCek : Bytes) : Prop :=
  Chains K (hskCek.take rootCertSize) (window hskCek rootCertSize csvCertSize) report.pekCert

/-- The certificate of a report hangs below an HSK and a CEK that were obtained for its chip. -/
def ChainedForChip (K : Crates) (report : CsvReport) : Prop :=
  ∃ chipId source hskCek, chipIdToString K report.chipId = .ok chipId ∧ Available K chipId source hskCek ∧
    source.OfChip chipId ∧ ChainedBelow K report hskCek

end Chained

section Places

theorem hskCekCandidatePaths_eq (chipId : String) : hskCekCandidatePaths K chipId = operatorFiles K ++ [chipFile chipId] := by
  rw [hskCekCandidatePaths, operatorFiles, List.append_assoc]
  rfl

/-- Without files of the operator every source is that of the chip. -/
theorem Available.ofChip {chipId : String} {source : Source} {hskCek : Bytes}
    (available : Available K chipId source hskCek) (absent : ∀ path ∈ operatorFiles K, K.fileExists path = false) :
    source.OfChip chipId := by
  cases available with
  | @file path _ first _ =>
    have listed := List.mem_of_find?_eq_some first
    have found := List.find?_some first
    rw [hskCekCandidatePaths_eq, List.mem_append, List.mem_singleton] at listed
    rcases listed with operator | rfl
    · rw [absent path operator] at found
      cases found
    · exact .inl rfl
  | server => exact .inr rfl

end Places

section Inversions

theorem verifyChain_chains {hskCek pekCert : Bytes} (verified : verifyChain K hskCek pekCert = .ok ()) :
    Chains K (hskCek.take rootCertSize) (window hskCek rootCertSize csvCertSize) pekCert := by
  simp only [verifyChain, verifyHskCert, verifyCsvCertWithRootIssuer, verifyCsvCertWithCsvIssuer, Wire.bind_eq_ok,
    Wire.context_eq_ok, Wire.ensure_eq_ok] at verified
  obtain ⟨_, ⟨_, hskUsage, hskSigned⟩, _, ⟨_, cekUsage, _, sig1Usage, _, _, cekSigned⟩, _, pekUsage, _, _, _, _,
    pekSigned⟩ := verified
  -- the first signature of a CEK is that of the HSK, so that the second is never taken
  rw [if_neg (by rw [sig1Usage]; decide)] at cekSigned
  exact ⟨hskUsage, cekUsage, pekUsage, hskSigned, cekSigned, pekSigned⟩

theorem normalizeHskCekCert_eq_ok {hskCek result : Bytes} {source : String}
    (normalized : normalizeHskCekCert hskCek source = .ok result) :
    result = hskCek.take (rootCertSize + csvCertSize) := by
  simp only [normalizeHskCekCert, Wire.bind_eq_ok] at normalized
  obtain ⟨_, _, same⟩ := normalized
  exact (Except.ok.inj same).symm

/-- Loading gives what is available, and nothing where nothing is. -/
theorem loadHskCekCert_available {chipId : String} {found : Option Bytes}
    (loaded : loadHskCekCert K chipId = .ok found) {source : Source} {hskCek : Bytes}
    (available : Available K chipId source hskCek) : found = some hskCek := by
  cases available with
  | @file path content first read =>
    simp only [loadHskCekCert, first, read, Wire.context_ok, Wire.ok_bind, Wire.map_eq_ok] at loaded
    obtain ⟨_, normalized, rfl⟩ := loaded
    rw [normalizeHskCekCert_eq_ok normalized]
  | @server stdout noFile enabled answered =>
    rw [chipUrl] at answered
    simp only [loadHskCekCert, noFile, downloadHskCekCert, if_neg enabled, answered, if_true, Wire.map_eq_ok] at loaded
    obtain ⟨_, normalized, rfl⟩ := loaded
    rw [normalizeHskCekCert_eq_ok normalized]

theorem loadHskCekCert_some {chipId : String} {hskCek : Bytes} (loaded : loadHskCekCert K chipId = .ok (some hskCek)) :
    ∃ source, Available K chipId source hskCek := by
  rw [loadHskCekCert] at loaded
  cases first : (hskCekCandidatePaths K chipId).find? K.fileExists with
  | some path =>
    simp only [first, Wire.bind_eq_ok, Wire.context_eq_ok, Wire.map_eq_ok, Option.some.injEq] at loaded
    obtain ⟨content, read, _, normalized, rfl⟩ := loaded
    rw [normalizeHskCekCert_eq_ok normalized]
    exact ⟨.file path, .file first read⟩
  | none =>
    simp only [first, downloadHskCekCert] at loaded
    split at loaded
    · cases loaded
    · rename_i enabled
      cases answered : K.curl (chipUrl chipId) with
      | none =>
        rw [chipUrl] at answered
        simp [answered] at loaded
      | some output =>
        obtain ⟨success, stdout⟩ := output
        have url := answered
        rw [chipUrl] at url
        cases success with
        | false => simp [url] at loaded
        | true =>
          simp only [url, if_true, Wire.map_eq_ok, Option.some.injEq] at loaded
          obtain ⟨_, normalized, rfl⟩ := loaded
          rw [normalizeHskCekCert_eq_ok normalized]
          exact ⟨.server (chipUrl chipId), .server first enabled answered⟩

/-- The chain is reported as verified where an HSK and a CEK are available, and it then is. -/
theorem verifyCertChainIfAvailable_eq_ok {report : CsvReport} {chainVerified : Bool}
    (verified : verifyCertChainIfAvailable K report = .ok chainVerified) :
    ∃ chipId, chipIdToString K report.chipId = .ok chipId ∧
      (chainVerified = true ↔ ∃ source hskCek, Available K chipId source hskCek) ∧
      ∀ source hskCek, Available K chipId source hskCek → ChainedBelow K report hskCek := by
  obtain ⟨chipId, named, rest⟩ := Wire.bind_eq_ok.mp verified
  obtain ⟨found, loaded, checked⟩ := Wire.bind_eq_ok.mp rest
  refine ⟨chipId, named, ?_⟩
  cases found with
  | none =>
    cases checked
    have nothing : ∀ source hskCek, ¬ Available K chipId source hskCek := by
      intro source hskCek available
      cases loadHskCekCert_available loaded available
    constructor
    · constructor
      · intro verified
        cases verified
      · rintro ⟨source, hskCek, available⟩
        exact absurd available (nothing source hskCek)
    · intro source hskCek available
      exact absurd available (nothing source hskCek)
  | some hskCek =>
    obtain ⟨_, chain, rfl⟩ := Wire.map_eq_ok.mp checked
    obtain ⟨source, available⟩ := loadHskCekCert_some loaded
    constructor
    · exact ⟨fun _ => ⟨source, hskCek, available⟩, fun _ => rfl⟩
    · intro source' hskCek' available'
      cases loadHskCekCert_available loaded available'
      exact verifyChain_chains chain

theorem enabled_eq_ok {enabled : Bool} {outcome : Outcome CsvClaim} {tee : TeeType} {claim : CsvClaim}
    (verified : (if enabled then outcome.map .csv else disabled K tee) = .ok (.csv claim)) : outcome = .ok claim := by
  cases enabled with
  | true =>
    obtain ⟨_, evaluated, same⟩ := Wire.map_eq_ok.mp verified
    cases same
    exact evaluated
  | false => cases verified

theorem verifyEvidence_csv {file : TeeEvidenceFile K} {claim : CsvClaim}
    (verified : verifyEvidence K file = .ok (.csv claim)) :
    ∃ mode, evaluate K mode file.challenge (evidenceToBytes K file.evidence) = .ok claim := by
  obtain ⟨tee, challenge, evidence⟩ := file
  cases tee with
  | hygonCsvUser => exact ⟨"user", enabled_eq_ok verified⟩
  | hygonCsvKernel => exact ⟨"kernel", enabled_eq_ok verified⟩
  | itrustee =>
    simp only [verifyEvidence] at verified
    cases built : K.itrusteeVerifier with
    | none => simp [built, disabled, Wire.bail] at verified
    | some itrustee => simp [built, Wire.map_eq_ok] at verified
  | virtcca =>
    simp only [verifyEvidence] at verified
    cases built : K.virtccaVerifier with
    | none => simp [built, disabled, Wire.bail] at verified
    | some virtcca => simp [built, Wire.map_eq_ok] at verified
  | invalid => cases verified

/-- The parts of an accepted CSV evidence file, and the checks of its report. -/
theorem verifyEvidenceJson_csv {input : Bytes} {claim : CsvClaim}
    (accepted : verifyEvidenceJson K input = .ok (.csv claim)) :
    ∃ report, Reported K input report ∧ claim.sn = hexEncode report.chipId ∧
      verifyReportSignature K.openSsl report = .ok () ∧
      verifyCertChainIfAvailable K report = .ok claim.certChain := by
  obtain ⟨file, read, verified⟩ := Wire.bind_eq_ok.mp accepted
  obtain ⟨mode, evaluated⟩ := verifyEvidence_csv verified
  simp only [evaluate, evaluateEvidence, evaluateReport, Wire.bind_eq_ok, Wire.context_eq_ok] at evaluated
  obtain ⟨evidence, parsed, _, _, _, _, _, _, _, _, _, _, reportBytes, decoded, report, laidOut, _, _, _, _, _, signed,
    chainVerified, chained, same⟩ := evaluated
  cases same
  exact ⟨report, ⟨⟨file, evidence, reportBytes, Wire.context_eq_ok.mp read, parsed, decoded, laidOut⟩⟩,
    rfl, signed, chained⟩

end Inversions

section Accepted

/-- An accepted report is signed under its embedded certificate. That certificate hangs
below the HSK and the CEK that are available, which the claim tells, and these are those of
the reported chip where the operator left no file. -/
theorem csv_chained_where_available {input : Bytes} {claim : CsvClaim}
    (accepted : verifyEvidenceJson K input = .ok (.csv claim)) :
    ∃ report chipId, Reported K input report ∧ claim.sn = hexEncode report.chipId ∧
      chipIdToString K report.chipId = .ok chipId ∧ verifyReportSignature K.openSsl report = .ok () ∧
      (claim.certChain = true ↔ ∃ source hskCek, Available K chipId source hskCek) ∧
      (∀ source hskCek, Available K chipId source hskCek → ChainedBelow K report hskCek) ∧
      ((∀ path ∈ operatorFiles K, K.fileExists path = false) →
        ∀ source hskCek, Available K chipId source hskCek → source.OfChip chipId) := by
  obtain ⟨report, reported, sn, signed, checked⟩ := verifyEvidenceJson_csv accepted
  obtain ⟨chipId, named, told, chained⟩ := verifyCertChainIfAvailable_eq_ok checked
  refine ⟨report, chipId, reported, sn, named, signed, told, chained, ?_⟩
  intro absent source hskCek available
  exact available.ofChip absent

end Accepted

section Unchained

/-- The SHA-256 digest of the byte 7. -/
def sevenDigest : Bytes := Wire.toBeBytes 32 0xca358758f6d27e6cf45272937977a748fd88391db679ceda7dc7bf1f005ee879

def unchainedNonce : Bytes := sevenDigest.take csvNonceLen

/-- A signature under the private key one, whose public key is the generator. -/
def unchainedR : Nat := 0xdc9bfa671a650124c2a2cb8afdbbc342bc54d226a7fdd495be480f516bcf8001
def unchainedS : Nat := 0x91b202cb72cd7f6d9eae9a3a81221e5e13d97657cdc71ae07497ec6083ed8124
def unchainedT : Nat := 0x6e4dfd338d328092615165c57edde1a15e2a691353feea4adf2407a8b5e7c002

/-- `unchainedS` times the generator and `unchainedT` times the public key. -/
def unchainedPoint : Nat × Nat :=
  (0xa97f7cd4b3c993b4be2daa8cdb41e24ca13f6bd945302244e26918f1d0509ebf,
    0x530b5dd88c688ef5ccc5cec08a72150f7c400ee5cd045292aaacdd037458f6e6)

/-- A coordinate as certificates and signatures hold it. -/
def coordinate (value : Nat) : Bytes := (Wire.toBeBytes 32 value).reverse ++ List.replicate 40 0

def unchainedSigned : Bytes := List.replicate mnonceOffset 0 ++ unchainedNonce ++ List.replicate 36 0

/-- A report without a mask, of a chip that nobody knows. -/
def unchainedReport : Bytes :=
  unchainedSigned ++ List.replicate 12 0 ++ coordinate unchainedR ++ coordinate unchainedS ++
    List.replicate csvCertPubkeyOffset 0 ++ u32ToLe 3 ++ coordinate sm2Gx ++ coordinate sm2Gy ++
    List.replicate 1920 0 ++ utf8 "CHIP" ++ List.replicate 124 0

def zaInput : Bytes :=
  [0, 0] ++ ([sm2A, sm2B, sm2Gx, sm2Gy].flatMap (Wire.toBeBytes eccLen)) ++ Wire.toBeBytes eccLen sm2Gx ++
    Wire.toBeBytes eccLen sm2Gy

def unchainedZa : Bytes := Wire.toBeBytes 32 0xc13adcc1829f563f2a01ef3c4e0685647bf32a650a35273443150d44f5809ff8

def unchainedDigest : Bytes := Wire.toBeBytes 32 0x331c7d92669b6d70047520fe2279e0f61b15664d62cdb250dbdef65f9b7ee142

def onCurve (x y : Nat) : Bool := y ^ 2 % sm2P == (x ^ 3 + sm2A * x + sm2B) % sm2P

/-- The library as far as one signature needs it. -/
def unchainedSsl : OpenSsl where
  Group := Unit
  Point := Nat × Nat
  fromComponents _ _ _ := .ok ()
  setGenerator _ _ _ _ := .ok ()
  fromAffine _ x y := if onCurve x y then .ok (x, y) else .error (.error ["point is not on curve"])
  order _ := .ok sm2N
  mulFull _ n point m :=
    if n = unchainedS ∧ point = (sm2Gx, sm2Gy) ∧ m = unchainedT then .ok unchainedPoint
    else .error (.error ["point arithmetic failure"])
  affineX _ point := .ok point.1
  sm3 bytes :=
    if bytes = zaInput then .ok unchainedZa
    else if bytes = unchainedZa ++ unchainedSigned then .ok unchainedDigest
    else .error (.error ["unknown message digest"])
  hmacSm3 _ _ := .error (.error ["unknown message digest"])

def unchainedEvidence : HygonCsvEvidence where
  mode := "user"
  report := Grpc.standardBase64 unchainedReport
  nonce := "yjWHWPbSfmz0UnKTeXenSA"
  imaLog := none

def unchainedEvidenceText : String :=
  Json.Value.render Empty.elim (.object [
    ("mode", .string unchainedEvidence.mode),
    ("report", .string unchainedEvidence.report),
    ("nonce", .string unchainedEvidence.nonce),
    ("ima_log", .null)])

def unchainedFile : RawFile Empty where
  tee := .string "HygonCsvUser"
  challenge := utf8 "Bw"
  evidence := .string unchainedEvidenceText

def unchainedInput : Bytes :=
  utf8 (Json.Value.render Empty.elim (.object [
    ("tee", unchainedFile.tee),
    ("request", .object [("uuid", .null), ("challenge", .array [.int 66, .int 119]), ("ima", .null)]),
    ("evidence", unchainedFile.evidence)]))

def unchainedUrlSafe (text : Bytes) : Except String Bytes :=
  if text = utf8 "Bw" then .ok [7]
  else if text = utf8 unchainedEvidence.nonce then .ok unchainedNonce
  else .error "InvalidLastSymbol"

/-- A machine without certificate files on which downloads are switched off. -/
def unchainedCrates : Crates where
  openSsl := unchainedSsl
  json := Json.Serde.ofValues []
  evidenceFile input := if input = unchainedInput then .ok unchainedFile else .error (.error ["expected value"])
  csvEvidence text :=
    if text = utf8 unchainedEvidenceText then .ok unchainedEvidence else .error (.error ["expected value"])
  unexpected _ := "null"
  located _ message := message
  decodeUrlSafe := unchainedUrlSafe
  decodeStandard text :=
    if text = utf8 unchainedEvidence.report then .ok unchainedReport else .error (.error ["Invalid padding"])
  sha256 bytes := if bytes = [7] then sevenDigest else []
  utf8Error _ := "invalid utf-8 sequence"
  env name := if name = "HYGON_CSV_DOWNLOAD_CERTS" then some "0" else none
  fileExists _ := false
  read _ := .error (.error ["No such file or directory (os error 2)"])
  curl _ := none
  csvUserVerifier := true
  csvKernelVerifier := true
  itrusteeVerifier := none
  virtccaVerifier := none

theorem unchainedReport_accepted :
    ∃ claim, evaluateReport unchainedCrates "user" "user" unchainedNonce unchainedReport = .ok claim := by
  have told : (evaluateReport unchainedCrates "user" "user" unchainedNonce unchainedReport).map CsvClaim.certChain =
      .ok false := by
    decide +kernel
  obtain ⟨claim, accepted, _⟩ := Wire.map_eq_ok.mp told
  exact ⟨claim, accepted⟩

/-- The tables answer for their own texts. -/
theorem unchained_tables :
    unchainedCrates.evidenceFile unchainedInput = .ok unchainedFile ∧
      unchainedCrates.csvEvidence (utf8 unchainedEvidenceText) = .ok unchainedEvidence ∧
      unchainedCrates.decodeStandard (utf8 unchainedEvidence.report) = .ok unchainedReport := by
  have files : ∀ input, unchainedCrates.evidenceFile input =
      if input = unchainedInput then .ok unchainedFile else .error (.error ["expected value"]) := fun _ => rfl
  have evidences : ∀ text, unchainedCrates.csvEvidence text =
      if text = utf8 unchainedEvidenceText then .ok unchainedEvidence else .error (.error ["expected value"]) :=
    fun _ => rfl
  have reports : ∀ text, unchainedCrates.decodeStandard text =
      if text = utf8 unchainedEvidence.report then .ok unchainedReport else .error (.error ["Invalid padding"]) :=
    fun _ => rfl
  rw [files, evidences, reports, if_pos rfl, if_pos rfl, if_pos rfl]
  exact ⟨rfl, rfl, rfl⟩

theorem unchainedEvidence_accepted :
    ∃ claim, evaluateEvidence unchainedCrates "user" (utf8 "Bw") unchainedEvidence = .ok claim := by
  obtain ⟨claim, accepted⟩ := unchainedReport_accepted
  have expected : challengeToNonce unchainedCrates (utf8 "Bw") = .ok unchainedNonce := by
    decide
  have nonce : unchainedCrates.decodeUrlSafe (utf8 unchainedEvidence.nonce) = .ok unchainedNonce := by
    decide
  refine ⟨claim, Wire.bind_eq_ok.mpr ⟨(), Wire.ensure_eq_ok.mpr rfl, ?_⟩⟩
  refine Wire.bind_eq_ok.mpr ⟨(), Wire.ensure_eq_ok.mpr rfl, ?_⟩
  refine Wire.bind_eq_ok.mpr ⟨unchainedNonce, expected, ?_⟩
  refine Wire.bind_eq_ok.mpr ⟨unchainedNonce, Wire.mapError_eq_ok.mpr nonce, ?_⟩
  refine Wire.bind_eq_ok.mpr ⟨(), Wire.ensure_eq_ok.mpr rfl, ?_⟩
  exact Wire.bind_eq_ok.mpr ⟨unchainedReport, Wire.context_eq_ok.mpr unchained_tables.2.2, accepted⟩

theorem unchained_accepted : ∃ claim, verifyEvidenceJson unchainedCrates unchainedInput = .ok (.csv claim) := by
  obtain ⟨claim, accepted⟩ := unchainedEvidence_accepted
  have user : TeeType.deserialize unchainedCrates unchainedFile.tee = .ok .hygonCsvUser := by
    decide +kernel
  have read : readEvidenceFile unchainedCrates unchainedInput =
      .ok ⟨.hygonCsvUser, unchainedFile.challenge, unchainedFile.evidence⟩ :=
    Wire.bind_eq_ok.mpr ⟨_, unchained_tables.1, Wire.bind_eq_ok.mpr ⟨_, Wire.mapError_eq_ok.mpr user, rfl⟩⟩
  have evaluated : evaluate unchainedCrates "user" (utf8 "Bw") (utf8 unchainedEvidenceText) = .ok claim :=
    Wire.bind_eq_ok.mpr ⟨_, Wire.context_eq_ok.mpr unchained_tables.2.1, accepted⟩
  have dispatched : ∀ challenge text, verifyEvidence unchainedCrates ⟨.hygonCsvUser, challenge, .string text⟩ =
      (evaluate unchainedCrates "user" challenge (utf8 text)).map .csv := fun _ _ => rfl
  refine ⟨claim, Wire.bind_eq_ok.mpr ⟨_, Wire.context_eq_ok.mpr read, ?_⟩⟩
  exact (dispatched _ _).trans (Wire.map_eq_ok.mpr ⟨claim, evaluated, rfl⟩)

/-- A report that its sender signed with a key of its own is accepted: no certificate of
the chip is found, and nothing is checked above the embedded one. -/
theorem unchained_report_accepted :
    (∃ claim, verifyEvidenceJson unchainedCrates unchainedInput = .ok (.csv claim)) ∧
      ∀ report, Reported unchainedCrates unchainedInput report → ¬ ChainedForChip unchainedCrates report := by
  refine ⟨unchained_accepted, ?_⟩
  rintro report _ ⟨chipId, source, hskCek, _, available, _, _⟩
  cases available with
  | file first _ =>
    have found := List.find?_some first
    cases found
  | server _ enabled _ => exact enabled rfl

theorem csv_chained_where_available_unchained :
    ∃ claim : CsvClaim, ∃ report chipId, Reported unchainedCrates unchainedInput report ∧
      claim.sn = hexEncode report.chipId ∧ chipIdToString unchainedCrates report.chipId = .ok chipId ∧
      verifyReportSignature unchainedCrates.openSsl report = .ok () ∧
      (claim.certChain = true ↔ ∃ source hskCek, Available unchainedCrates chipId source hskCek) ∧
      (∀ source hskCek, Available unchainedCrates chipId source hskCek → ChainedBelow unchainedCrates report hskCek) ∧
      ((∀ path ∈ operatorFiles unchainedCrates, unchainedCrates.fileExists path = false) →
        ∀ source hskCek, Available unchainedCrates chipId source hskCek → source.OfChip chipId) := by
  obtain ⟨claim, accepted⟩ := unchained_accepted
  exact ⟨claim, csv_chained_where_available accepted⟩

end Unchained

end UnifiedAttestation.Csv
