import UnifiedAttestation.Csv.Mask
import UnifiedAttestation.TeeEvidence.Verdicts

/-! What decides over Hygon CSV evidence that the collector has taken from the firmware.

The collector authenticates the answer of the firmware under the nonce, clears the reserved
bytes and encodes it. Every check of the verifier on the form of the evidence then passes,
and the session is not authenticated again.
-/

set_option autoImplicit false

namespace UnifiedAttestation.TeeEvidence

open Wire (Bytes Outcome ensure okOr context utf8)
open Csv (CsvReport CsvClaim HygonCsvEvidence window)

section Clearing
variable {raw : Bytes}

theorem layout_agrees : csvAttestationReportSize = Csv.reportSize ∧ pekCertOffset = Csv.pekCertOffset ∧
    reserved2Offset = Csv.reserved2Offset ∧ macOffset = Csv.macOffset ∧ csvCertSize = Csv.csvCertSize := by
  decide

theorem clearReserved2_length (size : raw.length = Csv.reportSize) : (clearReserved2 raw).length = Csv.reportSize := by
  simp only [clearReserved2, List.length_append, List.length_take, List.length_drop, List.length_replicate, size]
  decide

theorem clearReserved2_take (size : raw.length = Csv.reportSize) :
    (clearReserved2 raw).take reserved2Offset = raw.take reserved2Offset := by
  have sized : (raw.take reserved2Offset).length = reserved2Offset := by
    rw [List.length_take, size]
    decide
  rw [clearReserved2, List.append_assoc, List.take_append_of_le_length (Nat.le_of_eq sized.symm)]
  exact List.take_of_length_le (Nat.le_of_eq sized)

theorem clearReserved2_mac (size : raw.length = Csv.reportSize) :
    window (clearReserved2 raw) macOffset 32 = window raw macOffset 32 ∧
      window (clearReserved2 raw) reserved2Offset 32 = List.replicate 32 0 := by
  have sized : (raw.take reserved2Offset).length = reserved2Offset := by
    rw [List.length_take, size]
    decide
  have front : (raw.take reserved2Offset ++ List.replicate 32 (0 : UInt8)).length = macOffset := by
    rw [List.length_append, sized, List.length_replicate, macOffset]
  constructor
  · rw [window, clearReserved2, List.drop_left' front, window]
  · rw [window, clearReserved2, List.append_assoc, List.drop_left' sized, List.take_left' (by simp)]

theorem ofRaw_clearReserved2 (size : raw.length = Csv.reportSize) :
    CsvReport.ofRaw (clearReserved2 raw) (clearReserved2_length size) =
      { CsvReport.ofRaw raw size with
        raw := clearReserved2 raw
        size := clearReserved2_length size
        reserved2 := List.replicate 32 0 } := by
  have front := clearReserved2_take size
  have word : ∀ offset, offset + 4 ≤ reserved2Offset →
      Csv.u32AtLe (clearReserved2 raw) offset = Csv.u32AtLe raw offset :=
    fun _ inside => Csv.u32AtLe_congr inside front
  have field : ∀ offset count, offset + count ≤ reserved2Offset →
      window (clearReserved2 raw) offset count = window raw offset count :=
    fun _ _ inside => Csv.window_congr inside front
  obtain ⟨mac, cleared⟩ := clearReserved2_mac size
  have reserved : window (clearReserved2 raw) Csv.reserved2Offset Csv.reserved2Size = List.replicate 32 0 := cleared
  have code : window (clearReserved2 raw) Csv.macOffset Csv.hashLen = window raw Csv.macOffset Csv.hashLen := mac
  simp only [CsvReport.ofRaw, word _ (by decide : Csv.anonceOffset + 4 ≤ reserved2Offset),
    word _ (by decide : Csv.policyOffset + 4 ≤ reserved2Offset),
    word _ (by decide : Csv.sigUsageOffset + 4 ≤ reserved2Offset),
    word _ (by decide : Csv.sigAlgoOffset + 4 ≤ reserved2Offset),
    field _ _ (by decide : Csv.userDataOffset + Csv.userDataSize ≤ reserved2Offset),
    field _ _ (by decide : Csv.mnonceOffset + Csv.nonceSize ≤ reserved2Offset),
    field _ _ (by decide : Csv.measureOffset + Csv.hashLen ≤ reserved2Offset),
    field _ _ (by decide : Csv.pekCertOffset + Csv.csvCertSize ≤ reserved2Offset),
    field _ _ (by decide : Csv.snOffset + Csv.snLen ≤ reserved2Offset), reserved, code]

end Clearing

section Reports
variable {J : Json.Serde} {M : Machine J} {K : Csv.Crates}

def Page.report (page : Page) : CsvReport :=
  CsvReport.ofRaw (page.bytes.take Csv.reportSize) (List.length_take_of_le (by rw [page.size]; decide))

/-- The firmware has answered the request of a nonce with a page whose report is
authenticated under that nonce, and the evidence holds the report. -/
structure Answered (M : Machine J) (ask : Page → Except Int Page) (mode : String) (nonce : Bytes) (page : Page)
    (evidence : HygonCsvEvidence) : Prop where
  asked : ∃ hash, M.evpSm3 (userData ++ nonce) = some hash ∧ ask (.fill (userData ++ nonce ++ hash)) = .ok page
  authentic : M.hmacSm3 nonce page.report.macInput = some page.report.mac
  mode : evidence.mode = mode
  report : evidence.report = M.encodeStandard (clearReserved2 page.report.raw)
  nonce : evidence.nonce = M.encodeUrlSafe nonce
  imaLog : evidence.imaLog = none

theorem csvGetEvidence_ok {mode : String} {allocated : Bool} {ask : Page → Except Int Page} {explain : Int → String}
    {request : EvidenceRequest} {evidence : HygonCsvEvidence}
    (answered : csvGetEvidence M mode (getAttestationReport M allocated ask) explain request = .ok evidence) :
    ∃ challenge page, M.decodeUrlSafe request.challenge = .ok challenge ∧ challenge ≠ [] ∧
      Answered M ask mode ((M.sha256 challenge).take csvNonceLen) page evidence := by
  simp only [csvGetEvidence, challengeToNonce, getAttestationReport, readImaLogIfRequested, Wire.bind_eq_ok,
    Wire.mapError_eq_ok, Wire.context_eq_ok, Wire.ensure_eq_ok, Wire.okOr_eq_ok] at answered
  obtain ⟨nonce, ⟨challenge, decoded, _, some_challenge, same⟩, report,
    ⟨_, _, _, _, _, _, hash, hashed, page, asked, _, verified, exported⟩, imaLog, none, same'⟩ := answered
  cases same
  cases same'
  cases none
  cases exported
  have sm3 : M.evpSm3 (userData ++ (M.sha256 challenge).take csvNonceLen) = some hash :=
    (Option.filter_eq_some_iff.mp hashed).1
  have authentic := (Option.filter_eq_some_iff.mp (of_decide_eq_true verified)).1
  exact ⟨challenge, page, decoded, some_challenge, {
    asked := ⟨hash, sm3, asked⟩
    authentic
    mode := rfl
    report := by
      rw [Nat.sub_self, List.replicate_zero, List.append_nil]
      rfl
    nonce := rfl
    imaLog := rfl }⟩

def Page.exported (page : Page) : CsvReport :=
  { page.report with
    raw := clearReserved2 page.report.raw
    size := clearReserved2_length page.report.size
    reserved2 := List.replicate 32 0 }

theorem parse_exported (page : Page) : CsvReport.parse (clearReserved2 page.report.raw) = .ok page.exported := by
  have size := clearReserved2_length page.report.size
  have whole : (clearReserved2 page.report.raw).take Csv.reportSize = clearReserved2 page.report.raw :=
    List.take_of_length_le (Nat.le_of_eq size)
  rw [CsvReport.parse, dif_pos (Nat.le_of_eq size.symm)]
  simp only [whole]
  exact congrArg Except.ok (ofRaw_clearReserved2 page.report.size)

theorem verify_exported (page : Page) :
    Csv.verifyReportSignature K.openSsl page.exported = Csv.verifyReportSignature K.openSsl page.report ∧
      Csv.verifyCertChainIfAvailable K page.exported = Csv.verifyCertChainIfAvailable K page.report ∧
      Csv.verifySessionMacIfAvailable K page.exported = .ok false := by
  have front := clearReserved2_take page.report.size
  have signed : page.exported.signedBytes = page.report.signedBytes := by
    have cut := congrArg (List.take Csv.reportSignedSize) front
    rwa [List.take_take, List.take_take, Nat.min_eq_left (by decide)] at cut
  have signature : page.exported.reportSignature = page.report.reportSignature :=
    congrArg Csv.EccSignature.mk (Csv.window_congr (by decide) front)
  have key : page.exported.pekPubkey = page.report.pekPubkey := rfl
  refine ⟨?_, rfl, if_pos (by decide : (List.replicate 32 (0 : UInt8)).all (· == 0) = true)⟩
  rw [Csv.verifyReportSignature, Csv.verifyReportSignature, signed, signature, key]

def exportedClaim (mode : String) (report : CsvReport) (certChain : Bool) : CsvClaim where
  tee := Csv.csvTee mode
  mode
  nonce := Grpc.hexEncode report.mnonce
  userData := Grpc.hexEncode report.userData
  measure := Grpc.hexEncode report.measure
  policy := report.policy
  policyMeaning := Csv.csvPolicyMeaning report.policy
  sigUsage := report.sigUsage
  sigUsageMeaning := Csv.csvUsageMeaning report.sigUsage
  sigAlgo := report.sigAlgo
  sigAlgoMeaning := Csv.csvSigAlgoMeaning report.sigAlgo
  anonce := report.anonce
  sn := Grpc.hexEncode report.chipId
  sessionMac := false
  certChain

/-- The verifier judges an exported report like the report of the firmware, except that it
never authenticates the session. -/
theorem evaluateReport_exported (page : Page) (expected mode : String) (nonce : Bytes) (claim : CsvClaim) :
    Csv.evaluateReport K expected mode nonce (clearReserved2 page.report.raw) = .ok claim ↔
      page.report.mnonce = nonce ∧ Csv.verifyReportSignature K.openSsl page.report = .ok () ∧
        ∃ certChain, Csv.verifyCertChainIfAvailable K page.report = .ok certChain ∧
          claim = { exportedClaim mode page.report certChain with tee := Csv.csvTee expected } := by
  obtain ⟨signature, chain, mac⟩ := verify_exported (K := K) page
  simp only [Csv.evaluateReport, parse_exported, signature, chain, mac, Wire.ok_bind, Wire.bind_eq_ok, Wire.ensure_eq_ok]
  constructor
  · rintro ⟨_, stated, _, signed, certChain, chained, same⟩
    cases same
    exact ⟨stated, signed, certChain, chained, rfl⟩
  · rintro ⟨stated, signed, certChain, chained, rfl⟩
    exact ⟨(), stated, (), signed, certChain, chained, rfl⟩

/-- Evidence that was collected from the firmware is accepted exactly when the firmware's
report states the nonce of the challenge, is signed under its embedded certificate and
passes the check of the chain; the claim reports it without a session. -/
theorem collected_report_accepted_iff {mode : String} {allocated : Bool} {ask : Page → Except Int Page}
    {explain : Int → String} {request : EvidenceRequest} {evidence : HygonCsvEvidence} (libraries : SameLibraries M K)
    (collected : csvGetEvidence M mode (getAttestationReport M allocated ask) explain request = .ok evidence) :
    ∃ nonce page, Answered M ask mode nonce page evidence ∧ ∀ claim,
      Csv.evaluateEvidence K mode request.challenge evidence = .ok claim ↔
        page.report.mnonce = nonce ∧ Csv.verifyReportSignature K.openSsl page.report = .ok () ∧
          ∃ certChain, Csv.verifyCertChainIfAvailable K page.report = .ok certChain ∧
            claim = exportedClaim mode page.report certChain := by
  obtain ⟨challenge, page, decoded, given, answered⟩ := csvGetEvidence_ok collected
  refine ⟨(M.sha256 challenge).take csvNonceLen, page, answered, fun claim => ?_⟩
  have expected : Csv.challengeToNonce K request.challenge = .ok ((M.sha256 challenge).take csvNonceLen) := by
    simp only [Csv.challengeToNonce, libraries.decodes _ _ decoded, Except.mapError, ensure, given, ne_eq,
      not_false_eq_true, if_true, bind, Except.bind, libraries.sha256]
    rfl
  rw [Csv.evaluateEvidence, answered.mode, answered.imaLog, answered.nonce, answered.report, expected,
    libraries.urlSafe, libraries.standard]
  simp only [ensure, Except.mapError, context, if_true, bind, Except.bind]
  exact evaluateReport_exported page mode mode _ claim

theorem collected_report_accepted_iff_guest :
    ∃ nonce page claim, Answered guest (askHypervisor guest) "user" nonce page guestEvidence ∧
      page.report.mnonce = nonce ∧ Csv.verifyReportSignature guestCrates.openSsl page.report = .ok () ∧
      Csv.evaluateEvidence guestCrates "user" guestRequest.challenge guestEvidence = .ok claim ∧
      claim.sessionMac = false := by
  obtain ⟨nonce, page, answered, decides⟩ := collected_report_accepted_iff guest_libraries guest_collects
  obtain ⟨claim, accepted⟩ := guest_accepted
  obtain ⟨stated, signed, certChain, -, rfl⟩ := (decides claim).mp accepted
  exact ⟨nonce, page, _, answered, stated, signed, accepted, rfl⟩

end Reports

end UnifiedAttestation.TeeEvidence
