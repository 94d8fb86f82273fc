import UnifiedAttestation.Grpc.Natives

/-! The wasm appraisers shipped with the repository. Each plain appraiser and its
hydra sibling run the same code under two names.

A component is what its `evaluate` answers to evidence, expected report data and
expected init data hash; an error stands for a trap or a failed instantiation.
-/

set_option autoImplicit false

namespace UnifiedAttestation.Grpc

open Wire (Bytes okOr ensure)
open Json (Value Serde)

abbrev Component := Bytes → Option Bytes → Option Bytes → Except String String

section Passing
variable (K : Crates)

/-- A claims object with a single error. -/
def errorClaims (message : String) : Value K.json.Float := .object [("error", .string message)]

/-- The nonce in the evidence is the expected one, as text. -/
def nonceOk (nonce : String) : Option Bytes → Bool
  | some reportData => nonce == K.encodeBase64Url reportData
  | none => false

def verificationText (nonceOk : Bool) : Value K.json.Float := .string (if nonceOk then "passed" else "failed")

/-- Copy a member of the evidence into the claims. -/
def passthrough (evidence : Value K.json.Float) (claims : Json.Map K.json.Float) (key : String) :
    Json.Map K.json.Float :=
  claims.insertSome key (evidence.get key)

variable {K} in
/-- The evidence of CCA and CSV: one encoded object and the nonce. -/
def readEncodedEvidence (field : String) (value : Value K.json.Float) : Option (String × String) := do
  let fields ← value.fields [field, "nonce"]
  let encoded ← (fields field).bind Value.asStr
  let nonce ← (fields "nonce").bind Value.asStr
  some (encoded, nonce)

/-- The body shared by the CCA and CSV appraisers: decode one field, compare the
nonce, pass some members on. -/
def passingClaims (teeType field label size : String) (keys : List String) (evidence : Bytes)
    (expectedReportData : Option Bytes) : Value K.json.Float :=
  match K.json.fromSliceAs (readEncodedEvidence field) evidence with
  | .error e => errorClaims K s!"invalid evidence json: {e}"
  | .ok (encoded, nonce) =>
    match K.decodeBase64 encoded with
    | .error e => errorClaims K s!"{label} base64: {e}"
    | .ok decoded =>
      let bound := nonceOk K nonce expectedReportData
      let full := Value.orNull (K.json.fromSlice evidence)
      .object (keys.foldl (passthrough K full) [
        ("tee_type", .string teeType),
        ("verification", verificationText K bound),
        ("nonce_bound", .bool bound),
        (size, .int decoded.length)])

def ccaKeys : List String :=
  ["cca_realm_initial_measurement", "cca_realm_personalization_value", "cca_platform_instance_id",
    "cca_platform_implementation_id", "cca_platform_lifecycle", "cca_platform_sw_components"]

def csvKeys : List String := ["chip_id", "measurement", "vm_version", "policy_nodbg", "policy_noks"]

def ccaClaims (teeType : String) : Bytes → Option Bytes → Value K.json.Float :=
  passingClaims K teeType "cca_token_b64" "cca_token" "token_size" ccaKeys

def csvClaims (teeType : String) : Bytes → Option Bytes → Value K.json.Float :=
  passingClaims K teeType "csv_evidence_b64" "csv_evidence" "evidence_size" csvKeys

end Passing

section Itrustee
variable (K : Crates)

structure ItrusteeEvidence where
  report : String
  nonce : String
  imaLog : Option Bytes
  itrusteeUuid : Option String
  itrusteeTaImg : Option String
  itrusteeTaMem : Option String
  itrusteeHashAlg : Option String
  itrusteeVersion : Option String

variable {K} in
def readItrusteeEvidence (value : Value K.json.Float) : Option ItrusteeEvidence := do
  let field ← value.fields ["report", "nonce", "ima_log", "itrustee_uuid", "itrustee_ta_img", "itrustee_ta_mem",
    "itrustee_hash_alg", "itrustee_version"]
  let report ← (field "report").bind Value.asStr
  let nonce ← (field "nonce").bind Value.asStr
  let imaLog ← Value.optional Value.asBytes (field "ima_log")
  let itrusteeUuid ← Value.optional Value.asStr (field "itrustee_uuid")
  let itrusteeTaImg ← Value.optional Value.asStr (field "itrustee_ta_img")
  let itrusteeTaMem ← Value.optional Value.asStr (field "itrustee_ta_mem")
  let itrusteeHashAlg ← Value.optional Value.asStr (field "itrustee_hash_alg")
  let itrusteeVersion ← Value.optional Value.asStr (field "itrustee_version")
  some { report, nonce, imaLog, itrusteeUuid, itrusteeTaImg, itrusteeTaMem, itrusteeHashAlg, itrusteeVersion }

/-- The measurements: the members at the root when there is a uuid among them, else
what the report says. -/
def itrusteeMeasurements (parsed : ItrusteeEvidence) : ItrusteeVerificationResult :=
  match parsed.itrusteeUuid with
  | some uuid => {
      uuid := some uuid
      taImg := parsed.itrusteeTaImg
      taMem := parsed.itrusteeTaMem
      hashAlg := parsed.itrusteeHashAlg
      version := parsed.itrusteeVersion }
  | none =>
    let report := Value.orNull (K.json.fromStr parsed.report)
    { itrusteeResult K report with uuid := some ((payloadText K report "uuid").getD "") }

def itrusteeClaims (teeType : String) (evidence : Bytes) (expectedReportData : Option Bytes) : Value K.json.Float :=
  match K.json.fromSliceAs readItrusteeEvidence evidence with
  | .error e => errorClaims K s!"invalid evidence json: {e}"
  | .ok parsed =>
    let bound := nonceOk K parsed.nonce expectedReportData
    let found := itrusteeMeasurements K parsed
    let claims : Json.Map K.json.Float := [
      ("tee_type", .string teeType),
      ("verification", verificationText K bound),
      ("nonce_bound", .bool bound),
      ("uuid", .string (found.uuid.getD ""))]
    let claims := claims.insertSome "ta_img" (found.taImg.map .string)
    let claims := claims.insertSome "ta_mem" (found.taMem.map .string)
    let claims := claims.insertSome "hash_alg" (found.hashAlg.map .string)
    let claims := claims.insertSome "version" (found.version.map .string)
    .object (claims.insertSome "ima_log_size" (parsed.imaLog.map fun log => .int log.length))

end Itrustee

section Virtcca
variable (K : Crates)

structure VirtccaEvidence where
  evidence : Bytes
  devCert : Bytes
  nonce : String
  imaLog : Option Bytes
  eventLog : Option Bytes
  virtccaRim : Option String
  virtccaRpv : Option String
  virtccaChallenge : Option String
  virtccaIsPlatform : Option Bool
  virtccaPlatformSwComponents : Option (Value K.json.Float)

variable {K} in
def readVirtccaEvidence (value : Value K.json.Float) : Option (VirtccaEvidence K) := do
  let field ← value.fields ["evidence", "dev_cert", "nonce", "ima_log", "event_log", "virtcca_rim", "virtcca_rpv",
    "virtcca_challenge", "virtcca_is_platform", "virtcca_platform_sw_components"]
  let evidence ← (field "evidence").bind Value.asBytes
  let devCert ← (field "dev_cert").bind Value.asBytes
  let nonce ← (field "nonce").bind Value.asStr
  let imaLog ← Value.optional Value.asBytes (field "ima_log")
  let eventLog ← Value.optional Value.asBytes (field "event_log")
  let virtccaRim ← Value.optional Value.asStr (field "virtcca_rim")
  let virtccaRpv ← Value.optional Value.asStr (field "virtcca_rpv")
  let virtccaChallenge ← Value.optional Value.asStr (field "virtcca_challenge")
  let virtccaIsPlatform ← Value.optional Value.asBool (field "virtcca_is_platform")
  let virtccaPlatformSwComponents ← Value.optional some (field "virtcca_platform_sw_components")
  some ⟨evidence, devCert, nonce, imaLog, eventLog, virtccaRim, virtccaRpv, virtccaChallenge, virtccaIsPlatform,
    virtccaPlatformSwComponents⟩

def virtccaClaims (teeType : String) (evidence : Bytes) (expectedReportData : Option Bytes) : Value K.json.Float :=
  match K.json.fromSliceAs readVirtccaEvidence evidence with
  | .error e => errorClaims K s!"invalid evidence json: {e}"
  | .ok parsed =>
    let bound := nonceOk K parsed.nonce expectedReportData
    let claims : Json.Map K.json.Float := [
      ("tee_type", .string teeType),
      ("verification", verificationText K bound),
      ("nonce_bound", .bool bound),
      ("token_size", .int parsed.evidence.length),
      ("cert_size", .int parsed.devCert.length)]
    let claims := claims.insertSome "rim" (parsed.virtccaRim.map .string)
    let claims := claims.insertSome "rpv" (parsed.virtccaRpv.map .string)
    let claims := claims.insertSome "challenge_hex" (parsed.virtccaChallenge.map .string)
    let claims := claims.insertSome "is_platform" (parsed.virtccaIsPlatform.map .bool)
    let claims := claims.insertSome "platform_sw_components" parsed.virtccaPlatformSwComponents
    let claims := claims.insertSome "ima_log_size" (parsed.imaLog.map fun log => .int log.length)
    .object (claims.insertSome "event_log_size" (parsed.eventLog.map fun log => .int log.length))

end Virtcca

section Tdx
variable (K : Crates)

structure TdxEvidence where
  quoteB64 : String
  collateralB64 : String
  nowSecs : Nat

variable {K} in
def readTdxEvidence (value : Value K.json.Float) : Option TdxEvidence := do
  let field ← value.fields ["quote_b64", "collateral_b64", "now_secs"]
  let quoteB64 ← (field "quote_b64").bind Value.asStr
  let collateralB64 ← (field "collateral_b64").bind Value.asStr
  let nowSecs ← (field "now_secs").bind Value.asU64
  some { quoteB64, collateralB64, nowSecs }

/-- The expected bytes are a front part of the field, and zeros follow. -/
def reportDataMatches (reportData expected : Bytes) : Bool :=
  let cmpLen := min expected.length reportData.length
  reportData.take cmpLen == expected && (reportData.drop cmpLen).all (· == 0)

def initDataMatches (mrConfigId expected : Bytes) : Bool :=
  mrConfigId.take (min expected.length mrConfigId.length) == expected

def b64 (text : String) : Except String Bytes := (K.decodeBase64 text).mapError fun e => s!"base64 decode: {e}"

/-- The appraisal itself: a report with its verification, or an error message. -/
def tdxAppraise (evidence : Bytes) (expectedReportData expectedInitDataHash : Option Bytes) :
    Except String (VerifiedReport × TdReport) := do
  let parsed ← (K.json.fromSliceAs readTdxEvidence evidence).mapError fun e => s!"invalid evidence json: {e}"
  let quoteBin ← (b64 K parsed.quoteB64).mapError fun e => s!"quote: {e}"
  let collateralBin ← (b64 K parsed.collateralB64).mapError fun e => s!"collateral: {e}"
  let collateral ← (K.readCollateral collateralBin).mapError fun e => s!"collateral parse: {e}"
  let verified ← (K.verifyQuote quoteBin collateral parsed.nowSecs).mapError fun e => s!"dcap verify: {e}"
  let quote ← (K.parseQuote quoteBin).mapError fun e => s!"parse quote: {e}"
  let td ← okOr "not a TDX quote" quote
  ensure (expectedReportData.all (reportDataMatches td.reportData) = true)
    "report_data does not match expected (challenge nonce)"
  ensure (expectedInitDataHash.all (initDataMatches td.mrConfigId) = true)
    "mr_config_id does not match expected_init_data_hash"
  .ok (verified, td)

def tdxClaims (teeType : String) (evidence : Bytes) (expectedReportData expectedInitDataHash : Option Bytes) :
    Value K.json.Float :=
  match tdxAppraise K evidence expectedReportData expectedInitDataHash with
  | .error message =>
    .object [("tee_type", .string teeType), ("verification", .string "failed"), ("error", .string message)]
  | .ok (verified, td) =>
    .object [
      ("tee_type", .string teeType),
      ("verification", .string "passed"),
      ("tcb_status", .string verified.status),
      ("advisory_ids", .array (verified.advisoryIds.map .string)),
      ("mr_td", .string (hexEncode td.mrTd)),
      ("mr_seam", .string (hexEncode td.mrSeam)),
      ("mr_signer_seam", .string (hexEncode td.mrSignerSeam)),
      ("mr_config_id", .string (hexEncode td.mrConfigId)),
      ("report_data", .string (hexEncode td.reportData))]

end Tdx

section Mock
variable (K : Crates)

structure MockEvidence where
  payload : Value K.json.Float
  issuedAt : Int

variable {K} in
def readMockEvidence (value : Value K.json.Float) : Option (MockEvidence K) := do
  let field ← value.fields ["payload", "issued_at"]
  let payload := (field "payload").getD .null
  let issuedAt ← ((field "issued_at").map Value.asI64).getD (some 0)
  some { payload, issuedAt }

def mockClaims (evidence : Bytes) (expectedReportData : Option Bytes) : Value K.json.Float :=
  match K.json.fromSliceAs readMockEvidence evidence with
  | .error e => errorClaims K s!"invalid evidence json: {e}"
  | .ok parsed =>
    .object [
      ("tee_type", .string "mock"),
      ("verification", .string "passed"),
      ("payload", parsed.payload),
      ("challenge_binding_data", .string ((expectedReportData.map K.encodeBase64).getD "")),
      ("issued_at", .int parsed.issuedAt)]

end Mock

/-- The text under a key of the claims. -/
def claimText {K : Crates} (claims : Value K.json.Float) (key : String) : Option String :=
  (claims.get key).bind Value.asStr

/-- Claims that are printed and read again have the same texts. -/
theorem claimText_again {K : Crates} {claims kept : Value K.json.Float} {key : String} (faithful : K.json.Faithful)
    (same : kept.get key = (claims.get key).map K.json.again) : claimText kept key = claimText claims key := by
  rw [claimText, claimText, same]
  cases claims.get key with
  | none => rfl
  | some value => exact faithful.again_asStr value

theorem claimText_reread {K : Crates} {members kept : Json.Map K.json.Float} {key said : String}
    (faithful : K.json.Faithful) (same : Json.Map.get kept key = (Json.Map.get members key).map K.json.again)
    (there : Json.Map.get members key = some (.string said)) : claimText (K := K) (.object kept) key = some said := by
  rw [@claimText_again K (.object members) (.object kept) key faithful same, claimText, Value.get, there]
  rfl

/-- The appraisers of the repository. -/
inductive Appraiser where
  | mock | cca | ccaHydra | csv | csvHydra | tdx | tdxHydra | itrustee | itrusteeHydra | virtcca | virtccaHydra
  deriving DecidableEq, Repr

/-- The `tee_type` an appraiser reports. -/
def Appraiser.teeType : Appraiser → String
  | .mock => "mock"
  | .cca => "cca"
  | .ccaHydra => "cca-hydra"
  | .csv => "csv"
  | .csvHydra => "csv-hydra"
  | .tdx => "tdx"
  | .tdxHydra => "tdx-hydra"
  | .itrustee => "itrustee"
  | .itrusteeHydra => "itrustee-hydra"
  | .virtcca => "virtcca"
  | .virtccaHydra => "virtcca-hydra"

/-- The claims object an appraiser prints. -/
def Appraiser.claims (K : Crates) (appraiser : Appraiser) (evidence : Bytes) (expected init : Option Bytes) :
    Value K.json.Float :=
  match appraiser with
  | .mock => mockClaims K evidence expected
  | .cca | .ccaHydra => ccaClaims K appraiser.teeType evidence expected
  | .csv | .csvHydra => csvClaims K appraiser.teeType evidence expected
  | .tdx | .tdxHydra => tdxClaims K appraiser.teeType evidence expected init
  | .itrustee | .itrusteeHydra => itrusteeClaims K appraiser.teeType evidence expected
  | .virtcca | .virtccaHydra => virtccaClaims K appraiser.teeType evidence expected

def Appraiser.component (K : Crates) (appraiser : Appraiser) : Component := fun evidence expected init =>
  .ok (K.json.print (appraiser.claims K evidence expected init))

section Passed
variable {K : Crates}

theorem passthrough_get (full : Value K.json.Float) (keys : List String) (claims : Json.Map K.json.Float)
    (key : String) :
    Json.Map.get (keys.foldl (passthrough K full) claims) key =
      if key ∈ keys then (full.get key).or (Json.Map.get claims key) else Json.Map.get claims key := by
  induction keys generalizing claims with
  | nil => rfl
  | cons first rest ih =>
    rw [List.foldl_cons, ih, passthrough, Json.Map.get_insertSome]
    by_cases here : first = key
    · subst here
      cases full.get first <;> simp
    · simp [here, Ne.symm here]

/-- What an appraiser that reports no error has read, one lemma for each body. -/
theorem passingClaims_passed {teeType field label size : String} {keys : List String} {evidence : Bytes}
    {expected : Option Bytes}
    (clean : (passingClaims K teeType field label size keys evidence expected).get "error" = none) :
    ∃ value encoded nonce decoded, K.json.fromSlice evidence = .ok value ∧
      passingClaims K teeType field label size keys evidence expected =
        .object (keys.foldl (passthrough K value) [
          ("tee_type", .string teeType),
          ("verification", verificationText K (nonceOk K nonce expected)),
          ("nonce_bound", .bool (nonceOk K nonce expected)),
          (size, .int (decoded : Bytes).length)]) ∧ K.decodeBase64 encoded = .ok decoded := by
  simp only [passingClaims] at clean ⊢
  split at clean
  · simp [errorClaims, Value.get] at clean
  · next encoded nonce read =>
    obtain ⟨value, text, _⟩ := Serde.fromSliceAs_eq_ok.mp read
    cases decodes : K.decodeBase64 encoded with
    | error e => simp [decodes, errorClaims, Value.get] at clean
    | ok decoded =>
      refine ⟨value, encoded, nonce, decoded, text, ?_, decodes⟩
      simp only [text, Value.orNull]

theorem itrusteeClaims_passed {teeType : String} {evidence : Bytes} {expected : Option Bytes}
    (clean : (itrusteeClaims K teeType evidence expected).get "error" = none) :
    ∃ parsed, K.json.fromSliceAs readItrusteeEvidence evidence = .ok parsed := by
  cases read : K.json.fromSliceAs readItrusteeEvidence evidence with
  | error e => simp [itrusteeClaims, read, errorClaims, Value.get] at clean
  | ok parsed => exact ⟨parsed, rfl⟩

theorem virtccaClaims_passed {teeType : String} {evidence : Bytes} {expected : Option Bytes}
    (clean : (virtccaClaims K teeType evidence expected).get "error" = none) :
    ∃ parsed, K.json.fromSliceAs readVirtccaEvidence evidence = .ok parsed := by
  cases read : K.json.fromSliceAs readVirtccaEvidence evidence with
  | error e => simp [virtccaClaims, read, errorClaims, Value.get] at clean
  | ok parsed => exact ⟨parsed, rfl⟩

theorem tdxClaims_passed {teeType : String} {evidence : Bytes} {expected init : Option Bytes}
    (clean : (tdxClaims K teeType evidence expected init).get "error" = none) :
    ∃ verified td, tdxAppraise K evidence expected init = .ok (verified, td) := by
  cases appraised : tdxAppraise K evidence expected init with
  | error message => simp [tdxClaims, appraised, Value.get] at clean
  | ok result => exact ⟨result.1, result.2, rfl⟩

theorem tdxAppraise_ok {evidence : Bytes} {expected init : Option Bytes} {verified : VerifiedReport} {td : TdReport}
    (accepted : tdxAppraise K evidence expected init = .ok (verified, td)) :
    ∃ parsed quote, K.json.fromSliceAs readTdxEvidence evidence = .ok parsed ∧
      K.decodeBase64 parsed.quoteB64 = .ok quote ∧ K.parseQuote quote = .ok (some td) ∧
      expected.all (reportDataMatches td.reportData) = true ∧ init.all (initDataMatches td.mrConfigId) = true := by
  simp only [tdxAppraise, b64, Wire.bind_eq_ok, Wire.mapError_eq_ok, Wire.okOr_eq_ok, Wire.ensure_eq_ok] at accepted
  obtain ⟨parsed, read, quote, decodes, _, _, _, _, _, _, _, parses, _, isTd, _, bound, _, matched, same⟩ := accepted
  cases same
  exact ⟨parsed, quote, read, decodes, isTd ▸ parses, bound, matched⟩

/-- An appraisal changes with the expected init data only where that decides. -/
theorem tdxAppraise_init {evidence : Bytes} {expected init init' : Option Bytes} {verified : VerifiedReport}
    {td : TdReport} (accepted : tdxAppraise K evidence expected init = .ok (verified, td))
    (matched : init'.all (initDataMatches td.mrConfigId) = true) :
    tdxAppraise K evidence expected init' = .ok (verified, td) := by
  simp only [tdxAppraise, Wire.bind_eq_ok, Wire.ensure_eq_ok] at accepted ⊢
  obtain ⟨parsed, read, quote, decodes, collateralBin, encoded, collateral, parsedAs, report, dcap, found, parses, td',
    isTd, _, bound, _, _, same⟩ := accepted
  cases same
  exact ⟨parsed, read, quote, decodes, collateralBin, encoded, collateral, parsedAs, verified, dcap, found, parses, td,
    isTd, (), bound, (), matched, rfl⟩

theorem Appraiser.claims_object (appraiser : Appraiser) (evidence : Bytes) (expected init : Option Bytes) :
    ∃ members, appraiser.claims K evidence expected init = .object members := by
  have passing : ∀ teeType field label size keys,
      ∃ members, passingClaims K teeType field label size keys evidence expected = .object members := by
    intro teeType field label size keys
    simp only [passingClaims]
    split
    · exact ⟨_, rfl⟩
    · split
      · exact ⟨_, rfl⟩
      · exact ⟨_, rfl⟩
  cases appraiser with
  | cca | ccaHydra | csv | csvHydra => exact passing _ _ _ _ _
  | mock => simp only [claims, mockClaims]; split <;> exact ⟨_, rfl⟩
  | tdx | tdxHydra => simp only [claims, tdxClaims]; split <;> exact ⟨_, rfl⟩
  | itrustee | itrusteeHydra => simp only [claims, itrusteeClaims]; split <;> exact ⟨_, rfl⟩
  | virtcca | virtccaHydra => simp only [claims, virtccaClaims]; split <;> exact ⟨_, rfl⟩

/-- An appraiser without an error reports its own name. -/
theorem Appraiser.claims_teeType {appraiser : Appraiser} {evidence : Bytes} {expected init : Option Bytes}
    (clean : (appraiser.claims K evidence expected init).get "error" = none) :
    claimText (appraiser.claims K evidence expected init) "tee_type" = some appraiser.teeType := by
  have passing : ∀ {teeType field label size : String} {keys : List String}, "tee_type" ∉ keys →
      (passingClaims K teeType field label size keys evidence expected).get "error" = none →
      claimText (passingClaims K teeType field label size keys evidence expected) "tee_type" = some teeType := by
    intro teeType field label size keys other clean
    obtain ⟨value, encoded, nonce, decoded, _, shape, _⟩ := passingClaims_passed clean
    rw [shape, claimText, Value.get, passthrough_get, if_neg other]
    rfl
  cases appraiser with
  | cca | ccaHydra => exact passing (by decide) clean
  | csv | csvHydra => exact passing (by decide) clean
  | mock =>
    cases read : K.json.fromSliceAs readMockEvidence evidence with
    | error e => simp [claims, mockClaims, read, errorClaims, Value.get] at clean
    | ok parsed => simp [claims, mockClaims, read, claimText, Value.get, Value.asStr, teeType]
  | tdx | tdxHydra =>
    obtain ⟨verified, td, appraised⟩ := tdxClaims_passed clean
    simp [claims, tdxClaims, appraised, claimText, Value.get, Value.asStr, teeType]
  | itrustee | itrusteeHydra =>
    obtain ⟨parsed, read⟩ := itrusteeClaims_passed clean
    simp [claims, itrusteeClaims, read, claimText, Value.get, Json.Map.get_insertSome, Value.asStr, teeType]
  | virtcca | virtccaHydra =>
    obtain ⟨parsed, read⟩ := virtccaClaims_passed clean
    simp [claims, virtccaClaims, read, claimText, Value.get, Json.Map.get_insertSome, Value.asStr, teeType]

end Passed

end UnifiedAttestation.Grpc
