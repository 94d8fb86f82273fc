import UnifiedAttestation.Grpc.Reference

/-! How far the nonce of a request is bound by the hardware-signed object in its
evidence.

The object carries a field of 64 bytes. CCA and CSV evidence is accepted when that
field is the nonce cut or filled up with zeros to 64 bytes, TDX evidence when the
field is the nonce followed by zeros.
-/

set_option autoImplicit false

namespace UnifiedAttestation.Grpc

open Wire (Bytes okOr ensure)
open Json (Value Serde)

section Padding

theorem resize_of_le {bytes : Bytes} {size : Nat} (short : bytes.length ≤ size) :
    resize bytes size = bytes ++ List.replicate (size - bytes.length) 0 := by
  rw [resize, List.take_of_length_le short]

/-- Padding forgets the length of a byte string and what lies beyond the size, and
nothing else. -/
theorem eq_iff_of_resize_eq {first second : Bytes} {size : Nat} (padded : resize first size = resize second size) :
    first = second ↔ first.length = second.length ∧ first.drop size = second.drop size := by
  constructor
  · intro same
    exact ⟨congrArg List.length same, congrArg (List.drop size) same⟩
  · rintro ⟨sameLength, sameRest⟩
    have fronts : (first.take size).length = (second.take size).length := by
      simp only [List.length_take, sameLength]
    have front : first.take size = second.take size := (List.append_inj padded fronts).1
    calc first = first.take size ++ first.drop size := (List.take_append_drop size first).symm
      _ = second.take size ++ second.drop size := by rw [front, sameRest]
      _ = second := List.take_append_drop size second

theorem resize_of_reportDataMatches {field nonce : Bytes} {size : Nat} (length : field.length = size)
    (bound : reportDataMatches field nonce = true) : resize nonce size = field := by
  simp only [reportDataMatches, Bool.and_eq_true, beq_iff_eq, List.all_eq_true] at bound
  obtain ⟨front, zeros⟩ := bound
  have short : nonce.length ≤ size := by
    have := congrArg List.length front
    rw [List.length_take] at this
    omega
  rw [Nat.min_eq_left (length ▸ short)] at front zeros
  have rest : field.drop nonce.length = List.replicate (size - nonce.length) 0 := by
    rw [List.eq_replicate_iff, List.length_drop, length]
    exact ⟨rfl, zeros⟩
  rw [resize_of_le short, ← rest]
  nth_rewrite 1 [← front]
  exact List.take_append_drop nonce.length field

end Padding

section Binding
variable {K : Crates}

/-- The member of the evidence with the hardware-signed object. -/
def Family.objectKey : Family → String
  | .cca => "cca_token_b64"
  | .csv => "csv_evidence_b64"
  | .tdx => "quote_b64"
  | .mock | .itrustee | .virtcca => ""

/-- The families whose requests must show the nonce in the hardware-signed object. -/
def AppState.BindsNonce (A : AppState K) : Family → Prop
  | .cca => A.ccaVerifier.isSome = true
  | .csv => A.csvVerifier.isSome = true
  | .tdx => True
  | .mock | .itrustee | .virtcca => False

/-- The field of the hardware-signed object that the nonce is compared with. -/
def AppState.boundField (A : AppState K) (object : Bytes) : Family → Option Bytes
  | .cca => A.ccaVerifier.bind fun verifier => (verifier.opened object).toOption.map K.challenge
  | .csv => (openCsv (K := K) object).toOption.map fun opened => K.reportData opened.2.1
  | .tdx => (K.parseQuote object).toOption.bind fun quote => quote.map TdReport.reportData
  | .mock | .itrustee | .virtcca => none

theorem extractB64Field_ok {evidence object : Bytes} {key : String} :
    extractB64Field (K := K) evidence key = .ok object ↔ ∃ value text, K.json.fromSlice evidence = .ok value ∧
      (value.get key).bind Value.asStr = some text ∧ K.decodeBase64 text = .ok object := by
  simp only [extractB64Field, Wire.bind_eq_ok, Wire.mapError_eq_ok, Wire.okOr_eq_ok]
  constructor
  · rintro ⟨value, read, text, member, decodes⟩
    exact ⟨value, text, read, member, decodes⟩
  · rintro ⟨value, text, read, member, decodes⟩
    exact ⟨value, read, text, member, decodes⟩

theorem AppState.ccaEvidence_ok {A : AppState K} {req : VerifyRequest} {verifier : CcaVerifier K} {evidence : Bytes}
    {lifecycle : Option String} (configured : A.ccaVerifier = some verifier)
    (accepted : A.ccaEvidence req = .ok (evidence, lifecycle)) :
    ∃ members token e, K.json.fromSlice req.evidence = .ok (.object members) ∧
      extractB64Field (K := K) req.evidence "cca_token_b64" = .ok token ∧ verifier.opened token = .ok e ∧
      K.challenge e = resize req.nonce 64 ∧
      evidence = K.json.toVec (.object (injectCcaClaims K members (ccaResult K e))) ∧
      lifecycle = (ccaResult K e).ccaPlatformLifecycle := by
  simp only [ccaEvidence, configured, parseEvidence, rootObject, Wire.bind_eq_ok, Wire.mapError_eq_ok,
    Wire.okOr_eq_ok] at accepted
  obtain ⟨value, read, token, extracted, result, verified, members, object, rest⟩ := accepted
  obtain ⟨e, opened, _, challenge, rfl⟩ := CcaVerifier.verify_ok verified
  cases rest
  cases value with
  | object held =>
    cases object
    exact ⟨_, token, e, read, extracted, opened, challenge, rfl, rfl⟩
  | _ => cases object

theorem AppState.csvEvidence_ok {A : AppState K} {W : World K} {req : VerifyRequest} {policy : CsvPolicy}
    {evidence : Bytes} (configured : A.csvVerifier = some policy) (accepted : A.csvEvidence W req = .ok evidence) :
    ∃ members object parsed report chipId, K.json.fromSlice req.evidence = .ok (.object members) ∧
      extractB64Field (K := K) req.evidence "csv_evidence_b64" = .ok object ∧
      openCsv (K := K) object = .ok (parsed, report, chipId) ∧ K.reportData report = resize req.nonce 64 ∧
      evidence = K.json.toVec (.object (injectCsvClaims K members (csvResult chipId report))) := by
  simp only [csvEvidence, configured, parseEvidence, rootObject, Wire.bind_eq_ok, Wire.mapError_eq_ok,
    Wire.okOr_eq_ok] at accepted
  obtain ⟨value, read, object, extracted, result, verified, members, root, rest⟩ := accepted
  obtain ⟨parsed, report, chipId, opened, bound, rfl⟩ := CsvPolicy.verify_ok verified
  cases rest
  cases value with
  | object held =>
    cases root
    exact ⟨_, object, parsed, report, chipId, read, extracted, opened, bound, rfl⟩
  | _ => cases root

theorem injectTdxCollateral_ok {W : World K} {evidence injected : Bytes} {url : String}
    (accepted : injectTdxCollateral W evidence url = .ok injected) :
    ∃ members collateral, K.json.fromSlice evidence = .ok (.object members) ∧
      injected = K.json.toVec (.object (Json.Map.insert (Json.Map.insert members "collateral_b64" collateral)
        "now_secs" (.int W.injectedAt))) := by
  simp only [injectTdxCollateral, Wire.bind_eq_ok, Wire.mapError_eq_ok, Wire.okOr_eq_ok] at accepted
  obtain ⟨value, read, members, root, _, _, _, _, _, _, collateral, _, rest⟩ := accepted
  cases rest
  cases value with
  | object held =>
    cases root
    exact ⟨_, _, read, rfl⟩
  | _ => cases root

/-- The TD report that a TDX request was appraised by is the one of the quote it came with. -/
theorem Appraised.quoted {A : AppState K} {R : Registered} {W : World K} {req : VerifyRequest} {ear : EarClaims K}
    {tee : TeeType} {componentId : String} {evidence object : Bytes} {lifecycle : Option String}
    (faithful : K.json.Faithful) (shipped : Shipped K R) (family : tee.family = .tdx)
    (held : extractB64Field (K := K) req.evidence Family.tdx.objectKey = .ok object)
    (appraised : Appraised A R W req ear tee componentId evidence lifecycle) :
    ∃ verified td, tdxAppraise K evidence (some req.nonce) (A.expectedInit .tdx) = .ok (verified, td) ∧
      K.parseQuote object = .ok (some td) := by
  obtain ⟨clean, _⟩ := appraised.shipped faithful shipped
  rw [family] at clean
  obtain ⟨verified, td, accepted⟩ := tdxClaims_passed clean
  refine ⟨verified, td, accepted, ?_⟩
  obtain ⟨parsed, quote, readAs, decodes, parses, _, _⟩ := tdxAppraise_ok accepted
  obtain ⟨value, read, shape⟩ := Serde.fromSliceAs_eq_ok.mp readAs
  have host := appraised.host
  rw [family] at host
  cases made : injectTdxCollateral W req.evidence A.tdxPolicy.pccsUrl with
  | error message => simp [AppState.hostEvidence, made, Except.mapError, Except.map] at host
  | ok bytes =>
    simp only [AppState.hostEvidence, made, Except.mapError, Except.map, Except.ok.injEq, Prod.mk.injEq] at host
    obtain ⟨members, collateral, source, injected⟩ := injectTdxCollateral_ok made
    rw [← host.1, injected] at read
    obtain ⟨kept, rfl, each⟩ := faithful.reads read
    obtain ⟨root, text, again, member, objectDecodes⟩ := extractB64Field_ok.mp held
    cases source.symm.trans again
    -- the quote survives the injection, because the host writes other members
    have quoteText : parsed.quoteB64 = text := by
      have there : Json.Map.get kept "quote_b64" = (Json.Map.get members "quote_b64").map K.json.again := by
        rw [each, Json.Map.get_insert, Json.Map.get_insert]
        rfl
      simp only [readTdxEvidence, Value.fields, there, Option.bind_eq_bind, Option.bind_some,
        Option.bind_eq_some_iff] at shape
      obtain ⟨encoded, ⟨value, mapped, encodedText⟩, _, _, _, _, same⟩ := shape
      obtain ⟨original, found, rfl⟩ := Option.map_eq_some_iff.mp mapped
      rw [faithful.again_asStr] at encodedText
      have both : some text = some encoded := by
        rw [← member, ← encodedText]
        simp [Family.objectKey, Value.get, found]
      cases both
      cases same
      rfl
    rw [quoteText] at decodes
    cases objectDecodes.symm.trans decodes
    exact parses

/-- A request that obtains an EAR shows its padded nonce in the hardware-signed object. -/
theorem Appraised.bound {A : AppState K} {R : Registered} {W : World K} {req : VerifyRequest} {ear : EarClaims K}
    {tee : TeeType} {componentId : String} {evidence object : Bytes} {lifecycle : Option String}
    (faithful : K.json.Faithful) (binds : A.BindsNonce tee.family) (shipped : tee.family = .tdx → Shipped K R)
    (held : extractB64Field (K := K) req.evidence tee.family.objectKey = .ok object)
    (appraised : Appraised A R W req ear tee componentId evidence lifecycle) :
    A.boundField object tee.family = some (resize req.nonce 64) := by
  have host := appraised.host
  cases family : tee.family with
  | mock | itrustee | virtcca =>
    rw [family] at binds
    cases binds
  | cca =>
    rw [family] at binds host held
    obtain ⟨verifier, configured⟩ := Option.isSome_iff_exists.mp binds
    obtain ⟨_, token, e, _, extracted, opened, challenge, _⟩ := AppState.ccaEvidence_ok configured host
    cases held.symm.trans extracted
    simp [AppState.boundField, configured, opened, challenge, Except.toOption]
  | csv =>
    rw [family] at binds host held
    obtain ⟨policy, configured⟩ := Option.isSome_iff_exists.mp binds
    cases made : A.csvEvidence W req with
    | error status => simp [AppState.hostEvidence, made, Except.map] at host
    | ok bytes =>
      obtain ⟨_, _, parsed, report, chipId, _, extracted, opened, bound, _⟩ := AppState.csvEvidence_ok configured made
      cases held.symm.trans extracted
      simp [AppState.boundField, opened, bound, Except.toOption]
  | tdx =>
    rw [family] at held
    obtain ⟨verified, td, accepted, parses⟩ := appraised.quoted faithful (shipped family) family held
    obtain ⟨_, _, _, _, _, matched, _⟩ := tdxAppraise_ok accepted
    have padded := resize_of_reportDataMatches td.reportData_length (by simpa using matched)
    simp [AppState.boundField, parses, padded, Except.toOption]

/-- Two requests answered with an EAR on one hardware-signed object have the same
nonce exactly when their nonces are equally long and agree after 64 bytes. -/
theorem replayed_nonces_eq_iff (faithful : K.json.Faithful) {A : AppState K} {R R' : Registered} {W W' : World K}
    {req req' : VerifyRequest} {response response' : VerifyResponse} {tee : TeeType} {object : Bytes}
    (binds : A.BindsNonce tee.family) (shipped : tee.family = .tdx → Shipped K R ∧ Shipped K R')
    (kind : TeeType.tryFrom req.teeType = some tee) (sameKind : req'.teeType = req.teeType)
    (held : extractB64Field (K := K) req.evidence tee.family.objectKey = .ok object)
    (alsoHeld : extractB64Field (K := K) req'.evidence tee.family.objectKey = .ok object)
    (accepted : A.verify R W req = .ok response) (alsoAccepted : A.verify R' W' req' = .ok response') :
    req.nonce = req'.nonce ↔ req.nonce.length = req'.nonce.length ∧ req.nonce.drop 64 = req'.nonce.drop 64 := by
  obtain ⟨ear, appraises, _⟩ := Wire.bind_eq_ok.mp accepted
  obtain ⟨ear', appraises', _⟩ := Wire.bind_eq_ok.mp alsoAccepted
  obtain ⟨found, _, _, _, appraised⟩ := AppState.appraise_ok appraises
  obtain ⟨found', _, _, _, appraised'⟩ := AppState.appraise_ok appraises'
  cases kind.symm.trans appraised.tee_type
  cases (sameKind ▸ kind).symm.trans appraised'.tee_type
  have first := appraised.bound faithful binds (fun tdx => (shipped tdx).1) held
  have second := appraised'.bound faithful binds (fun tdx => (shipped tdx).2) alsoHeld
  exact eq_iff_of_resize_eq (Option.some.inj (first.symm.trans second))

end Binding

section Replayed

/-- A CCA token whose challenge is one byte followed by zeros. -/
def replayedToken : Bytes := [1]

def replayedEvidence (nonce : Bytes) : Value Empty :=
  .object [("cca_token_b64", .string (standardBase64 replayedToken)), ("nonce", .string (urlSafeBase64 nonce))]

def replayedInjected (nonce : Bytes) : Value Empty :=
  .object [
    ("cca_token_b64", .string (standardBase64 replayedToken)),
    ("nonce", .string (urlSafeBase64 nonce)),
    ("cca_platform_instance_id", .string ""),
    ("cca_platform_implementation_id", .string ""),
    ("cca_platform_lifecycle", .string "secured")]

def replayedClaims : Value Empty :=
  .object [
    ("tee_type", .string "cca"),
    ("verification", .string "passed"),
    ("nonce_bound", .bool true),
    ("token_size", .int 1),
    ("cca_platform_instance_id", .string ""),
    ("cca_platform_implementation_id", .string ""),
    ("cca_platform_lifecycle", .string "secured")]

def replayedCrates : Crates :=
  referenceCrates [replayedEvidence [1], replayedEvidence [1, 0], replayedInjected [1], replayedInjected [1, 0],
    replayedClaims]

def replayedRequest (nonce : Bytes) : VerifyRequest where
  teeType := 2
  nonce := nonce
  evidence := Wire.utf8 ((replayedEvidence nonce).render Empty.elim)
  wasm := some (.wasmComponentId "cca")

def replayedState : AppState replayedCrates := referenceState replayedCrates (some { tas := (), rvs := () }) none

def replayedRegistered : Registered := referenceRegistered replayedCrates .cca

theorem replayed_holds (nonce : Bytes) (known : nonce = [1] ∨ nonce = [1, 0]) :
    extractB64Field (K := replayedCrates) (replayedRequest nonce).evidence Family.cca.objectKey = .ok replayedToken := by
  rcases known with rfl | rfl
  · decide
  · decide

theorem replayed_first :
    replayedState.verify replayedRegistered (referenceWorld replayedCrates 0) (replayedRequest [1]) =
      .ok { ear := "AQ", wasmComponentId := "cca" } := by
  decide +kernel

theorem replayed_second :
    replayedState.verify replayedRegistered (referenceWorld replayedCrates 0) (replayedRequest [1, 0]) =
      .ok { ear := "AQA", wasmComponentId := "cca" } := by
  decide +kernel

/-- One token gives EARs for the nonce of one byte and for the same nonce with a zero
byte after it. -/
theorem replayed_with_a_zero_byte :
    ∃ response response' : VerifyResponse,
      replayedState.verify replayedRegistered (referenceWorld replayedCrates 0) (replayedRequest [1]) = .ok response ∧
      replayedState.verify replayedRegistered (referenceWorld replayedCrates 0) (replayedRequest [1, 0]) =
        .ok response' ∧
      replayedState.BindsNonce .cca ∧
      extractB64Field (K := replayedCrates) (replayedRequest [1]).evidence Family.cca.objectKey = .ok replayedToken ∧
      extractB64Field (K := replayedCrates) (replayedRequest [1, 0]).evidence Family.cca.objectKey =
        .ok replayedToken ∧
      response.ear ≠ response'.ear ∧ (replayedRequest [1]).nonce ≠ (replayedRequest [1, 0]).nonce :=
  ⟨_, _, replayed_first, replayed_second, rfl, replayed_holds [1] (.inl rfl), replayed_holds [1, 0] (.inr rfl),
    by decide, by decide⟩

theorem replayed_nonces_eq_iff_zero_byte :
    (replayedRequest [1]).nonce = (replayedRequest [1, 0]).nonce ↔
      (replayedRequest [1]).nonce.length = (replayedRequest [1, 0]).nonce.length ∧
        (replayedRequest [1]).nonce.drop 64 = (replayedRequest [1, 0]).nonce.drop 64 :=
  have faithful : replayedCrates.json.Faithful := Serde.ofTable_faithful (by decide) (by decide)
  have family : TeeType.family .cca = .tdx → Shipped replayedCrates replayedRegistered ∧
      Shipped replayedCrates replayedRegistered := nofun
  have binds : replayedState.BindsNonce (TeeType.family .cca) := rfl
  replayed_nonces_eq_iff faithful binds family rfl rfl (replayed_holds [1] (.inl rfl))
    (replayed_holds [1, 0] (.inr rfl)) replayed_first replayed_second

end Replayed

end UnifiedAttestation.Grpc
