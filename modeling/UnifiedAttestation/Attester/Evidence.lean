import UnifiedAttestation.RelyingParty.Acceptance

/-! The gRPC service of the attester: what it collects from the api-server-rest, how it
wraps that for the appraisers, and what it answers in the two modes.

A response of the api-server-rest is a call that may fail, and then a body that may break
off. The clock and the random bytes are those of one request. A mode that is no known one
is read as background check before the service sees it here.
-/

set_option autoImplicit false

namespace UnifiedAttestation.Attester

open Wire (Bytes okOr ensure)
open Json (Value Serde)
open Grpc (Crates TeeType Family Status VerifyRequest VerifyResponse teeTypeStr)
open RelyingParty (AttestationMode GetEvidenceRequest GetEvidenceResponse parseTeeType teeTypeNumber)

section Collection
variable (K : Crates)

/-- What a request to the service uses of its surroundings. -/
structure Agent where
  decodeBase64Url : String → Except String Bytes
  get : String → Except String (Except String Bytes)
  nowSecs : Int

variable {K}

def evidenceUrl (K : Crates) (aaEndpoint : String) (nonce : Bytes) : String :=
  aaEndpoint ++ "/aa/evidence?runtime_data=" ++ K.encodeBase64 nonce

/-- `GET /aa/evidence?runtime_data=<nonce>`. -/
def fetchAaEvidence (K : Crates) (agent : Agent) (nonceB64 aaEndpoint : String) : Except String Bytes := do
  let nonceRaw ← (agent.decodeBase64Url nonceB64).mapError fun _ => "decode challenge nonce"
  let url := evidenceUrl K aaEndpoint nonceRaw
  let response ← (agent.get url).mapError fun _ => s!"GET {url}"
  response.mapError fun _ => "read AA evidence body"

/-- The object of CCA and CSV: the encoded evidence and the nonce. -/
def buildEncodedPart (field : String) (agent : Agent) (nonceB64 aaEndpoint : String) :
    Except String (Value K.json.Float) := do
  let evidence ← fetchAaEvidence K agent nonceB64 aaEndpoint
  .ok (.object [(field, .string (K.encodeBase64 evidence)), ("nonce", .string nonceB64)])

def buildCcaPart : Agent → String → String → Except String (Value K.json.Float) := buildEncodedPart "cca_token_b64"

def buildCsvPart : Agent → String → String → Except String (Value K.json.Float) := buildEncodedPart "csv_evidence_b64"

def buildTdxPart (agent : Agent) (nonceB64 aaEndpoint : String) : Except String (Value K.json.Float) := do
  let quoteBytes ← fetchAaEvidence K agent nonceB64 aaEndpoint
  .ok (.object [("quote_b64", .string (K.encodeBase64 quoteBytes))])

/-- The JSON of iTrustee and VirtCCA; the nonce is put into an object, over one it has. -/
def buildJsonPart (failure : String) (agent : Agent) (nonceB64 aaEndpoint : String) :
    Except String (Value K.json.Float) := do
  let evidenceBytes ← fetchAaEvidence K agent nonceB64 aaEndpoint
  let evidence ← (K.json.fromSlice evidenceBytes).mapError fun _ => failure
  match evidence with
  | .object obj => .ok (.object (Json.Map.insert obj "nonce" (.string nonceB64)))
  | other => .ok other

def buildItrusteePart : Agent → String → String → Except String (Value K.json.Float) :=
  buildJsonPart "parse itrustee AA evidence"

def buildVirtccaPart : Agent → String → String → Except String (Value K.json.Float) :=
  buildJsonPart "parse virtcca AA evidence"

def buildMockPart (agent : Agent) (nonceB64 : String) : Value K.json.Float :=
  .object [
    ("payload", .object [
      ("device_id", .string "mock-device-001"),
      ("challenge_b64", .string nonceB64),
      ("note", .string "stage-1 mock evidence")]),
    ("issued_at", .int agent.nowSecs)]

def buildEvidence (K : Crates) (agent : Agent) (teeType : TeeType) (nonceBytes : Bytes) (aaEndpoint : String) :
    Except String Bytes :=
  let nonceB64 := K.encodeBase64Url nonceBytes
  match teeType with
  | .mock => .ok (K.json.toVec (buildMockPart agent nonceB64))
  | .cca | .ccaHydra => (buildCcaPart agent nonceB64 aaEndpoint).map K.json.toVec
  | .csv | .csvHydra => (buildCsvPart agent nonceB64 aaEndpoint).map K.json.toVec
  | .tdx | .tdxHydra => (buildTdxPart agent nonceB64 aaEndpoint).map K.json.toVec
  | .itrustee | .itrusteeHydra => (buildItrusteePart agent nonceB64 aaEndpoint).map K.json.toVec
  | .virtcca | .virtccaHydra => (buildVirtccaPart agent nonceB64 aaEndpoint).map K.json.toVec
  | .unspecified => .error "tee_type unspecified"

end Collection

section Service

structure Config where
  teeType : TeeType
  aaEndpoint : String
  verifierEndpoint : Option String

structure Svc where
  cfg : Config
  wasmBytes : Bytes

/-- A name as `Debug` prints it. -/
def debugTeeType : TeeType → String
  | .unspecified => "Unspecified"
  | .mock => "Mock"
  | .cca => "Cca"
  | .ccaHydra => "CcaHydra"
  | .tdx => "Tdx"
  | .tdxHydra => "TdxHydra"
  | .csv => "Csv"
  | .csvHydra => "CsvHydra"
  | .itrustee => "Itrustee"
  | .virtcca => "Virtcca"
  | .itrusteeHydra => "ItrusteeHydra"
  | .virtccaHydra => "VirtccaHydra"

/-- A connection to the verifier at an address, and its answer to a request. -/
abbrev VerifierClient := String → Except String (VerifyRequest → Except String VerifyResponse)

/-- The nonce the evidence is made for, and the part of it that is the attester's own. -/
def effectiveNonce (random : Bytes) (req : GetEvidenceRequest) : Except Status (Bytes × Bytes) :=
  match req.mode, req.nonce with
  | .passport, [] => .ok (random, random)
  | .backgroundCheck, [] => .error (.invalidArgument "nonce required for background-check mode")
  | _, nonce => .ok (nonce, [])

/-- The EAR that the attester gets for itself in passport mode. -/
def Svc.fetchEar (svc : Svc) (connect : VerifierClient) (nonce evidence : Bytes) : Except Status String := do
  let endpoint ← okOr (Status.internal "verifier_endpoint must be configured for passport mode")
    svc.cfg.verifierEndpoint
  let verify ← (connect s!"http://{endpoint}").mapError fun e => Status.internal s!"connect verifier: {e}"
  let resp ← (verify {
    teeType := teeTypeNumber svc.cfg.teeType
    nonce
    evidence
    wasm := some (.wasmComponent svc.wasmBytes) }).mapError fun e => Status.internal s!"verifier Verify: {e}"
  .ok resp.ear

def Svc.getEvidence (K : Crates) (svc : Svc) (agent : Agent) (connect : VerifierClient) (random : Bytes)
    (req : GetEvidenceRequest) : Except Status GetEvidenceResponse := do
  let tee ← okOr (Status.invalidArgument "invalid tee_type") (TeeType.tryFrom req.teeType)
  let request := debugTeeType tee
  let configured := debugTeeType svc.cfg.teeType
  ensure (tee = svc.cfg.teeType)
    (Status.invalidArgument s!"tee_type mismatch: request={request}, configured={configured}")
  let (nonce, generatedNonce) ← effectiveNonce random req
  let evidence ← (buildEvidence K agent svc.cfg.teeType nonce svc.cfg.aaEndpoint).mapError Status.internal
  match req.mode with
  | .passport => do
    let ear ← svc.fetchEar connect nonce evidence
    .ok { evidence := [], wasmComponent := [], generatedNonce, ear }
  | .backgroundCheck => .ok { evidence, wasmComponent := svc.wasmBytes, generatedNonce, ear := "" }

end Service

section Built
variable {K : Crates}

/-- The members of the evidence around what the api-server-rest answered. -/
def envelope (K : Crates) (agent : Agent) (nonce bytes : Bytes) : Family → Option (Json.Map K.json.Float)
  | .mock => (buildMockPart agent (K.encodeBase64Url nonce)).asObject
  | .cca => some [("cca_token_b64", .string (K.encodeBase64 bytes)), ("nonce", .string (K.encodeBase64Url nonce))]
  | .csv => some [("csv_evidence_b64", .string (K.encodeBase64 bytes)), ("nonce", .string (K.encodeBase64Url nonce))]
  | .tdx => some [("quote_b64", .string (K.encodeBase64 bytes))]
  | .itrustee | .virtcca =>
    ((K.json.fromSlice bytes).toOption.bind Value.asObject).map fun obj =>
      Json.Map.insert obj "nonce" (.string (K.encodeBase64Url nonce))

/-- The api-server-rest answers the request for a nonce. -/
def Answers (K : Crates) (agent : Agent) (aaEndpoint : String) (nonce bytes : Bytes) : Prop :=
  agent.get (evidenceUrl K aaEndpoint nonce) = .ok (.ok bytes)

theorem fetchAaEvidence_answers {agent : Agent} {aaEndpoint : String} {nonce bytes : Bytes}
    (decodes : agent.decodeBase64Url (K.encodeBase64Url nonce) = .ok nonce)
    (answers : Answers K agent aaEndpoint nonce bytes) :
    fetchAaEvidence K agent (K.encodeBase64Url nonce) aaEndpoint = .ok bytes := by
  have there : agent.get (evidenceUrl K aaEndpoint nonce) = .ok (.ok bytes) := answers
  simp only [fetchAaEvidence, decodes, there, Except.mapError, bind, Except.bind]

/-- Evidence is the envelope of the answer, printed. -/
theorem buildEvidence_answers {agent : Agent} {teeType : TeeType} {aaEndpoint : String} {nonce bytes : Bytes}
    {members : Json.Map K.json.Float} (specified : teeType ≠ .unspecified)
    (decodes : agent.decodeBase64Url (K.encodeBase64Url nonce) = .ok nonce)
    (answers : Answers K agent aaEndpoint nonce bytes)
    (wrapped : envelope K agent nonce bytes teeType.family = some members) :
    buildEvidence K agent teeType nonce aaEndpoint = .ok (K.json.toVec (.object members)) := by
  have fetched := fetchAaEvidence_answers decodes answers
  have json : ∀ failure, ((K.json.fromSlice bytes).toOption.bind Value.asObject).map
      (fun obj => Json.Map.insert obj "nonce" (.string (K.encodeBase64Url nonce))) = some members →
      buildJsonPart failure agent (K.encodeBase64Url nonce) aaEndpoint = .ok (.object members) := by
    intro failure inserted
    obtain ⟨obj, read, rfl⟩ := Option.map_eq_some_iff.mp inserted
    obtain ⟨value, parsed, object⟩ := Option.bind_eq_some_iff.mp read
    cases whole : K.json.fromSlice bytes with
    | error e => simp [whole, Except.toOption] at parsed
    | ok held =>
      rw [whole] at parsed
      cases parsed
      cases value with
      | object obj' =>
        cases object
        simp only [buildJsonPart, fetched, whole, Except.mapError, bind, Except.bind]
      | _ => cases object
  cases teeType with
  | unspecified => exact absurd rfl specified
  | mock =>
    cases wrapped
    rfl
  | cca | ccaHydra | csv | csvHydra =>
    cases wrapped
    simp only [buildEvidence, buildCcaPart, buildCsvPart, buildEncodedPart, fetched, bind, Except.bind, Except.map]
  | tdx | tdxHydra =>
    cases wrapped
    simp only [buildEvidence, buildTdxPart, fetched, bind, Except.bind, Except.map]
  | itrustee | itrusteeHydra => simp only [buildEvidence, buildItrusteePart, json _ wrapped, Except.map]
  | virtcca | virtccaHydra => simp only [buildEvidence, buildVirtccaPart, json _ wrapped, Except.map]

end Built

end UnifiedAttestation.Attester
