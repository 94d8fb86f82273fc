import UnifiedAttestation.Csv.Chain
import UnifiedAttestation.Grpc.Reference
import UnifiedAttestation.Json.Reader

/-! What the challenge and the signed bytes of a report determine.

The word that masks a report lies behind its signed bytes. But the masked nonce is among
them, and unmasked it has to be that of the challenge, so there is only one word left.
-/

set_option autoImplicit false

namespace UnifiedAttestation.Csv

open Wire (Bytes utf8)
open Grpc (hexEncode)

section Words

theorem u32ToLe_injective {value value' : UInt32} (same : u32ToLe value = u32ToLe value') : value = value' := by
  simp only [u32ToLe, List.cons.injEq, ← UInt8.toNat_inj, UInt32.toNat_toUInt8, UInt32.toNat_shiftRight] at same
  apply UInt32.toNat_inj.mp
  have low := value.toNat_lt
  have low' := value'.toNat_lt
  simp [Nat.shiftRight_eq_div_pow] at same
  omega

/-- A word and the same word unmasked give the mask away. -/
theorem xorU32Chunks_key {key key' : UInt32} {input : Bytes} (word : 4 ≤ input.length)
    (same : xorU32Chunks key input = xorU32Chunks key' input) : key = key' := by
  match input, word with
  | a :: b :: c :: d :: rest, _ =>
    have first := List.append_inj_left same rfl
    exact (UInt32.xor_right_inj _).mp (u32ToLe_injective first)

variable {bytes bytes' : Bytes} {front : Nat}

theorem window_congr {offset size : Nat} (inside : offset + size ≤ front) (same : bytes.take front = bytes'.take front) :
    window bytes offset size = window bytes' offset size := by
  have through : ∀ bytes : Bytes, window bytes offset size = ((bytes.take front).drop offset).take size := by
    intro bytes
    rw [window, List.drop_take, List.take_take, min_eq_left (by omega)]
  rw [through, through, same]

theorem u32AtLe_congr {offset : Nat} (inside : offset + 4 ≤ front) (same : bytes.take front = bytes'.take front) :
    u32AtLe bytes offset = u32AtLe bytes' offset := by
  have byte : ∀ index, index < front → bytes.getD index 0 = bytes'.getD index 0 := by
    intro index below
    rw [List.getD_eq_getElem?_getD, List.getD_eq_getElem?_getD, ← List.getElem?_take_of_lt below, same,
      List.getElem?_take_of_lt below]
  rw [u32AtLe, u32AtLe, byte _ (by omega), byte _ (by omega), byte _ (by omega), byte _ (by omega)]

end Words

section Reports
variable {report report' : CsvReport}

/-- The fields are those of the raw bytes. -/
def Laid (report : CsvReport) : Prop := report = CsvReport.ofRaw report.raw report.size

theorem parse_laid {raw : Bytes} (parsed : CsvReport.parse raw = .ok report) : Laid report := by
  unfold CsvReport.parse at parsed
  split at parsed
  · cases parsed
    rfl
  · cases parsed

theorem Laid.signed_fields (laid : Laid report) :
    report.mnonce = xorU32Chunks report.anonce (window report.raw mnonceOffset nonceSize) ∧
      report.measure = xorU32Chunks report.anonce (window report.raw measureOffset hashLen) ∧
      report.policy = u32AtLe report.raw policyOffset ^^^ report.anonce ∧
      report.userData = xorU32Chunks report.anonce (window report.raw userDataOffset userDataSize) := by
  rw [laid]
  exact ⟨rfl, rfl, rfl, rfl⟩

/-- Reports with the same signed bytes and the same nonce have the same mask. -/
theorem anonce_eq (laid : Laid report) (laid' : Laid report') (signed : report.signedBytes = report'.signedBytes)
    (nonces : report.mnonce = report'.mnonce) : report.anonce = report'.anonce := by
  have masked : window report.raw mnonceOffset nonceSize = window report'.raw mnonceOffset nonceSize :=
    window_congr (by decide) signed
  have size : (window report.raw mnonceOffset nonceSize).length = nonceSize := by
    apply window_length
    rw [report.size]
    decide
  have word : 4 ≤ (window report.raw mnonceOffset nonceSize).length := by
    rw [size]
    decide
  -- The first word of the nonce is enough: it is masked and unmasked in both reports.
  apply xorU32Chunks_key word
  rw [← laid.signed_fields.1, nonces, laid'.signed_fields.1, masked]

/-- Reports with the same signed bytes and the same mask have the same signed fields. -/
theorem signed_fields_eq (laid : Laid report) (laid' : Laid report') (signed : report.signedBytes = report'.signedBytes)
    (masks : report.anonce = report'.anonce) :
    report.measure = report'.measure ∧ report.policy = report'.policy ∧ report.userData = report'.userData := by
  obtain ⟨_, measure, policy, userData⟩ := laid.signed_fields
  obtain ⟨_, measure', policy', userData'⟩ := laid'.signed_fields
  have here : ∀ offset size, offset + size ≤ reportSignedSize →
      window report.raw offset size = window report'.raw offset size := fun _ _ inside => window_congr inside signed
  refine ⟨?_, ?_, ?_⟩
  · rw [measure, measure', masks, here _ _ (by decide)]
  · rw [policy, policy', masks, u32AtLe_congr (by decide) signed]
  · rw [userData, userData', masks, here _ _ (by decide)]

end Reports

section Accepted
variable {K : Crates} {mode mode' : String} {challenge evidence evidence' : Bytes} {claim claim' : CsvClaim}
  {report report' : CsvReport}

/-- The report of an evidence file. -/
def Carries (K : Crates) (evidence : Bytes) (report : CsvReport) : Prop :=
  ∃ csv bytes, K.csvEvidence evidence = .ok csv ∧ K.decodeStandard (utf8 csv.report) = .ok bytes ∧
    CsvReport.parse bytes = .ok report

/-- The report of accepted evidence answers the challenge, and the claim shows its fields. -/
theorem evaluate_shows (accepted : evaluate K mode challenge evidence = .ok claim) (carries : Carries K evidence report) :
    challengeToNonce K challenge = .ok report.mnonce ∧ claim.nonce = hexEncode report.mnonce ∧
      claim.measure = hexEncode report.measure ∧ claim.policy = report.policy ∧
      claim.userData = hexEncode report.userData ∧ claim.anonce = report.anonce := by
  simp only [evaluate, evaluateEvidence, evaluateReport, Wire.bind_eq_ok, Wire.context_eq_ok, Wire.ensure_eq_ok] at accepted
  obtain ⟨csv, parsed, _, _, _, _, expected, answers, _, _, _, _, bytes, decoded, own, laidOut, _, rfl, _, _, _, _, _, _,
    same⟩ := accepted
  cases same
  obtain ⟨csv', bytes', parsed', decoded', laidOut'⟩ := carries
  cases parsed.symm.trans parsed'
  cases decoded.symm.trans decoded'
  cases laidOut.symm.trans laidOut'
  exact ⟨answers, rfl, rfl, rfl, rfl, rfl⟩

/-- For one challenge, the signed bytes of an accepted report determine what the claim says
of its nonce, measurement, policy, user data and mask. -/
theorem signed_bytes_determine (accepted : evaluate K mode challenge evidence = .ok claim)
    (accepted' : evaluate K mode' challenge evidence' = .ok claim') (carries : Carries K evidence report)
    (carries' : Carries K evidence' report') (signed : report.signedBytes = report'.signedBytes) :
    claim.nonce = claim'.nonce ∧ claim.measure = claim'.measure ∧ claim.policy = claim'.policy ∧
      claim.userData = claim'.userData ∧ claim.anonce = claim'.anonce := by
  obtain ⟨answers, nonce, measure, policy, userData, anonce⟩ := evaluate_shows accepted carries
  obtain ⟨answers', nonce', measure', policy', userData', anonce'⟩ := evaluate_shows accepted' carries'
  obtain ⟨_, _, _, _, laidOut⟩ := carries
  obtain ⟨_, _, _, _, laidOut'⟩ := carries'
  have nonces : report.mnonce = report'.mnonce := Except.ok.inj (answers.symm.trans answers')
  have masks := anonce_eq (parse_laid laidOut) (parse_laid laidOut') signed nonces
  obtain ⟨measures, policies, data⟩ := signed_fields_eq (parse_laid laidOut) (parse_laid laidOut') signed masks
  rw [nonce, nonce', measure, measure', policy, policy', userData, userData', anonce, anonce', nonces, measures,
    policies, data, masks]
  exact ⟨rfl, rfl, rfl, rfl, rfl⟩

end Accepted

section Retouched

/-- Read the members of an evidence file without a log. -/
def csvMembers (value : Json.Value Empty) : Option HygonCsvEvidence := do
  let members ← value.asObject
  let mode ← (Json.Map.get members "mode").bind Json.Value.asStr
  let report ← (Json.Map.get members "report").bind Json.Value.asStr
  let nonce ← (Json.Map.get members "nonce").bind Json.Value.asStr
  match Json.Map.get members "ima_log" with
  | none | some .null => some ⟨mode, report, nonce, none⟩
  | some _ => none

/-- Evidence for the challenge of one byte, with any report. -/
def evidenceWith (report : Bytes) : HygonCsvEvidence :=
  { unchainedEvidence with report := Grpc.standardBase64 report }

def evidenceJson (report : Bytes) : Json.Value Empty := .object [
  ("mode", .string (evidenceWith report).mode),
  ("report", .string (evidenceWith report).report),
  ("nonce", .string (evidenceWith report).nonce),
  ("ima_log", .null)]

def evidenceText (report : Bytes) : Bytes := Json.Serde.compact.toVec (evidenceJson report)

/-- Libraries that read every such file. -/
def readingCrates : Crates :=
  { unchainedCrates with
    csvEvidence := fun text =>
      (Json.Serde.compact.fromSliceAs csvMembers text).mapError fun message => .error [message]
    decodeStandard := fun text =>
      match Wire.fromUtf8 text with
      | some text => (Grpc.decodeStandardBase64 text).mapError fun message => .error [message]
      | none => .error (.error ["Invalid byte"]) }

theorem evidenceText_read (report : Bytes) :
    Json.Serde.compact.fromSlice (evidenceText report) = .ok (evidenceJson report) := by
  have read := Json.Serde.compact_fromSlice (evidenceJson report)
  rwa [← evidenceText] at read

theorem reading_csvEvidence (report : Bytes) : readingCrates.csvEvidence (evidenceText report) = .ok (evidenceWith report) := by
  have reads : ∀ text, readingCrates.csvEvidence text =
      (Json.Serde.compact.fromSliceAs csvMembers text).mapError fun message => .error [message] := fun _ => rfl
  have members : csvMembers (evidenceJson report) = some (evidenceWith report) := rfl
  have read : Json.Serde.compact.fromSliceAs csvMembers (evidenceText report) = .ok (evidenceWith report) :=
    Json.Serde.fromSliceAs_eq_ok.mpr ⟨evidenceJson report, evidenceText_read report, members⟩
  rw [reads, read]
  rfl

theorem reading_decodeStandard (report : Bytes) :
    readingCrates.decodeStandard (utf8 (evidenceWith report).report) = .ok report := by
  have decodes : ∀ text, readingCrates.decodeStandard (utf8 text) =
      (Grpc.decodeStandardBase64 text).mapError fun message => .error [message] := by
    intro text
    simp only [readingCrates, Wire.fromUtf8_utf8]
  rw [decodes, evidenceWith, Grpc.decodeStandardBase64_encode]
  rfl

theorem reading_accepts {report : Bytes} {claim : CsvClaim}
    (accepted : evaluateReport unchainedCrates "user" "user" unchainedNonce report = .ok claim) :
    evaluate readingCrates "user" (utf8 "Bw") (evidenceText report) = .ok claim := by
  have expected : challengeToNonce readingCrates (utf8 "Bw") = .ok unchainedNonce := by
    decide
  have nonce : readingCrates.decodeUrlSafe (utf8 (evidenceWith report).nonce) = .ok unchainedNonce := by
    change unchainedUrlSafe (utf8 "yjWHWPbSfmz0UnKTeXenSA") = .ok unchainedNonce
    decide
  have same : ∀ mode nonce, evaluateReport readingCrates mode mode nonce report =
      evaluateReport unchainedCrates mode mode nonce report := fun _ _ => rfl
  rw [← same] at accepted
  refine Wire.bind_eq_ok.mpr ⟨_, Wire.context_eq_ok.mpr (reading_csvEvidence report), ?_⟩
  refine Wire.bind_eq_ok.mpr ⟨(), Wire.ensure_eq_ok.mpr rfl, Wire.bind_eq_ok.mpr ⟨(), Wire.ensure_eq_ok.mpr rfl, ?_⟩⟩
  refine Wire.bind_eq_ok.mpr ⟨unchainedNonce, expected, ?_⟩
  refine Wire.bind_eq_ok.mpr ⟨unchainedNonce, Wire.mapError_eq_ok.mpr nonce, ?_⟩
  refine Wire.bind_eq_ok.mpr ⟨(), Wire.ensure_eq_ok.mpr rfl, ?_⟩
  exact Wire.bind_eq_ok.mpr ⟨report, Wire.context_eq_ok.mpr (reading_decodeStandard report), accepted⟩

/-- The report with other bytes where nothing is signed. -/
def retouchedReport : Bytes := unchainedReport.take macOffset ++ List.replicate hashLen 1

theorem reading_carries {report : Bytes} (size : reportSize ≤ report.length) :
    Carries readingCrates (evidenceText report) (.ofRaw (report.take reportSize) (List.length_take_of_le size)) :=
  ⟨evidenceWith report, report, reading_csvEvidence report, reading_decodeStandard report, dif_pos size⟩

theorem retouchedReport_accepted :
    ∃ claim, evaluateReport unchainedCrates "user" "user" unchainedNonce retouchedReport = .ok claim := by
  have told : (evaluateReport unchainedCrates "user" "user" unchainedNonce retouchedReport).map CsvClaim.certChain =
      .ok false := by
    decide +kernel
  obtain ⟨claim, accepted, _⟩ := Wire.map_eq_ok.mp told
  exact ⟨claim, accepted⟩

theorem signed_bytes_determine_retouched :
    ∃ claim claim' : CsvClaim,
      evaluate readingCrates "user" (utf8 "Bw") (evidenceText unchainedReport) = .ok claim ∧
      evaluate readingCrates "user" (utf8 "Bw") (evidenceText retouchedReport) = .ok claim' ∧
      claim.nonce = claim'.nonce ∧ claim.measure = claim'.measure ∧ claim.policy = claim'.policy ∧
      claim.userData = claim'.userData ∧ claim.anonce = claim'.anonce := by
  obtain ⟨claim, accepted⟩ := unchainedReport_accepted
  obtain ⟨claim', accepted'⟩ := retouchedReport_accepted
  have size : unchainedReport.length = reportSize := by
    decide +kernel
  have front : (unchainedReport.take macOffset).length = macOffset := by
    rw [List.length_take, size]
    decide
  have size' : retouchedReport.length = reportSize := by
    rw [retouchedReport, List.length_append, front, List.length_replicate]
    decide
  refine ⟨claim, claim', reading_accepts accepted, reading_accepts accepted', ?_⟩
  apply signed_bytes_determine (reading_accepts accepted) (reading_accepts accepted') (reading_carries size.ge)
    (reading_carries size'.ge)
  have signed : ∀ bytes : Bytes, (bytes.take reportSize).take reportSignedSize = bytes.take reportSignedSize := by
    intro bytes
    rw [List.take_take, min_eq_left (by decide)]
  -- The MAC lies behind the signed bytes.
  change (unchainedReport.take reportSize).take reportSignedSize = (retouchedReport.take reportSize).take reportSignedSize
  rw [signed, signed, retouchedReport, List.take_append_of_le_length (by rw [front]; decide), List.take_take,
    min_eq_left (by decide)]

end Retouched

end UnifiedAttestation.Csv
