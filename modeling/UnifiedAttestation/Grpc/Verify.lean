import UnifiedAttestation.Grpc.Appraisers

/-! The gRPC service of the verifier: from a Verify request to a signed EAR.

The component registry enters as what it answers while the request is handled.
-/

set_option autoImplicit false

namespace UnifiedAttestation.Grpc

open Wire (Bytes okOr ensure)
open Json (Value Serde)

inductive TeeType where
  | unspecified | mock | cca | ccaHydra | tdx | tdxHydra | csv | csvHydra | itrustee | virtcca | itrusteeHydra
  | virtccaHydra
  deriving DecidableEq, Repr

def TeeType.tryFrom : Int → Option TeeType
  | 0 => some .unspecified
  | 1 => some .mock
  | 2 => some .cca
  | 3 => some .ccaHydra
  | 4 => some .tdx
  | 5 => some .tdxHydra
  | 6 => some .csv
  | 7 => some .csvHydra
  | 8 => some .itrustee
  | 9 => some .virtcca
  | 10 => some .itrusteeHydra
  | 11 => some .virtccaHydra
  | _ => none

def teeTypeStr : TeeType → String
  | .unspecified => "unspecified"
  | .mock => "mock"
  | .cca => "cca"
  | .ccaHydra => "cca-hydra"
  | .csv => "csv"
  | .csvHydra => "csv-hydra"
  | .tdx => "tdx"
  | .tdxHydra => "tdx-hydra"
  | .itrustee => "itrustee"
  | .itrusteeHydra => "itrustee-hydra"
  | .virtcca => "virtcca"
  | .virtccaHydra => "virtcca-hydra"

theorem teeTypeStr_injective {first second : TeeType} (same : teeTypeStr first = teeTypeStr second) :
    first = second := by
  revert same
  cases first <;> cases second <;> decide

/-- A plain path and its hydra sibling take the same branch on the host. -/
inductive Family where
  | mock | cca | csv | itrustee | virtcca | tdx
  deriving DecidableEq, Repr

def TeeType.family : TeeType → Family
  | .cca | .ccaHydra => .cca
  | .csv | .csvHydra => .csv
  | .itrustee | .itrusteeHydra => .itrustee
  | .virtcca | .virtccaHydra => .virtcca
  | .tdx | .tdxHydra => .tdx
  | .unspecified | .mock => .mock

inductive Status where
  | invalidArgument (message : String)
  | internal (message : String)
  deriving DecidableEq, Repr

inductive Wasm where
  | wasmComponent (bytes : Bytes)
  | wasmComponentId (id : String)

structure VerifyRequest where
  teeType : Int
  nonce : Bytes
  evidence : Bytes
  wasm : Option Wasm

structure VerifyResponse where
  ear : String
  wasmComponentId : String
  deriving DecidableEq, Repr

structure CcaPolicy where
  trustedSubjects : List String
  trustedRimHex : List String

structure TdxPolicy where
  pccsUrl : String
  trustedMrTdHex : List String
  trustedMrSeamHex : List String
  trustedMrConfigIdHex : List String
  acceptTcbStatus : List String

structure TrustVector where
  instanceIdentity : Int
  configuration : Int
  executables : Int
  deriving DecidableEq, Repr

def TrustVector.affirming : TrustVector := { instanceIdentity := 2, configuration := 2, executables := 2 }

structure VerifierId where
  developer : String
  build : Option String

variable (K : Crates)

structure EarClaims where
  iss : String
  iat : Int
  exp : Option Int
  eatNonce : String
  teeType : String
  componentId : String
  submods : Value K.json.Float
  trustVector : TrustVector
  verifierId : VerifierId
  eatProfile : Option String

/-- The state shared by all requests; `sign` encodes claims under the verifier's key. -/
structure AppState where
  ccaPolicy : CcaPolicy
  tdxPolicy : TdxPolicy
  ccaVerifier : Option (CcaVerifier K)
  csvVerifier : Option CsvPolicy
  sign : EarClaims K → Except String String

/-- What the component registry answers while one request is handled: the id that
`register` gives for its bytes, and the components then compiled. -/
structure Registered where
  register : Bytes → Except String String
  compiled : String → Option Component

/-- All components registered are appraisers of the repository. -/
def Shipped (R : Registered) : Prop :=
  ∀ id component, R.compiled id = some component → ∃ appraiser : Appraiser, component = appraiser.component K

structure EvaluateOutcome where
  componentId : String
  claims : Value K.json.Float

section Host
variable {K}

def extractB64Field (evidence : Bytes) (key : String) : Except String Bytes := do
  let v ← (K.json.fromSlice evidence).mapError fun e => s!"evidence json: {e}"
  let s ← okOr s!"evidence.{key} missing" ((v.get key).bind Value.asStr)
  (K.decodeBase64 s).mapError fun e => s!"{key} base64: {e}"

def parseEvidence (evidence : Bytes) : Except Status (Value K.json.Float) :=
  (K.json.fromSlice evidence).mapError fun e => .invalidArgument s!"evidence json: {e}"

def rootObject (ev : Value K.json.Float) : Except Status (Json.Map K.json.Float) :=
  okOr (.invalidArgument "evidence root must be object") ev.asObject

/-- The evidence for the component, and the lifecycle kept for the trust vector. -/
def AppState.ccaEvidence (A : AppState K) (req : VerifyRequest) : Except Status (Bytes × Option String) := do
  let ev ← parseEvidence (K := K) req.evidence
  match A.ccaVerifier with
  | none => .ok (K.json.toVec ev, none)
  | some verifier =>
    let ccaToken ← (extractB64Field (K := K) req.evidence "cca_token_b64").mapError fun e =>
      .invalidArgument s!"extract cca token: {e}"
    let result ← (verifier.verify ccaToken (resize req.nonce 64)).mapError fun e =>
      .invalidArgument s!"cca verify failed: {e}"
    let obj ← rootObject ev
    .ok (K.json.toVec (.object (injectCcaClaims K obj result)), result.ccaPlatformLifecycle)

def AppState.csvEvidence (A : AppState K) (W : World K) (req : VerifyRequest) : Except Status Bytes := do
  let ev ← parseEvidence (K := K) req.evidence
  match A.csvVerifier with
  | none => .ok (K.json.toVec ev)
  | some verifier =>
    let csvEvidence ← (extractB64Field (K := K) req.evidence "csv_evidence_b64").mapError fun e =>
      .invalidArgument s!"extract csv evidence: {e}"
    let result ← (verifier.verify W csvEvidence req.nonce).mapError fun e =>
      .invalidArgument s!"csv verify failed: {e}"
    let obj ← rootObject ev
    .ok (K.json.toVec (.object (injectCsvClaims K obj result)))

def itrusteeEvidence (req : VerifyRequest) : Except Status Bytes := do
  let ev ← parseEvidence (K := K) req.evidence
  match itrusteeExtractClaims K req.evidence with
  | .ok result => do
    let obj ← rootObject ev
    .ok (K.json.toVec (.object (injectItrusteeClaims K obj result)))
  -- the raw evidence goes on when its report cannot be read
  | .error _ => .ok (K.json.toVec ev)

def virtccaEvidence (req : VerifyRequest) : Except Status Bytes := do
  let ev ← parseEvidence (K := K) req.evidence
  match virtccaExtractClaims K req.evidence with
  | .ok result => do
    let obj ← rootObject ev
    .ok (K.json.toVec (.object (injectVirtccaClaims K obj result)))
  | .error _ => .ok (K.json.toVec ev)

def injectTdxCollateral (W : World K) (evidence : Bytes) (pccsUrl : String) : Except String Bytes := do
  let v ← (K.json.fromSlice evidence).mapError fun e => s!"evidence json: {e}"
  let obj ← okOr "evidence root must be object" v.asObject
  let quoteB64 ← okOr "evidence.quote_b64 missing" ((Json.Map.get obj "quote_b64").bind Value.asStr)
  let quoteBytes ← (K.decodeBase64 quoteB64).mapError fun e => s!"quote_b64 base64: {e}"
  let collateral ← (W.getCollateral pccsUrl quoteBytes).mapError fun e => s!"get_collateral: {e}"
  let collateralBin ← (K.printCollateral collateral).mapError fun e => s!"serialize collateral: {e}"
  let obj := Json.Map.insert obj "collateral_b64" (.string (K.encodeBase64 collateralBin))
  let obj := Json.Map.insert obj "now_secs" (.int W.injectedAt)
  .ok (K.json.toVec (.object obj))

/-- Step 2: the evidence for the component, by the family of the request. -/
def AppState.hostEvidence (A : AppState K) (W : World K) (req : VerifyRequest) :
    Family → Except Status (Bytes × Option String)
  | .cca => A.ccaEvidence req
  | .csv => (A.csvEvidence W req).map fun bytes => (bytes, none)
  | .itrustee => (itrusteeEvidence (K := K) req).map fun bytes => (bytes, none)
  | .virtcca => (virtccaEvidence (K := K) req).map fun bytes => (bytes, none)
  | .tdx => ((injectTdxCollateral W req.evidence A.tdxPolicy.pccsUrl).mapError fun e =>
      Status.internal s!"fetch collateral: {e}").map fun bytes => (bytes, none)
  | .mock => .ok (req.evidence, none)

end Host

section Components
variable {K}

/-- The claims of a component that reports neither an error nor a failure. -/
def passedClaims (claims : Value K.json.Float) : Except String (Value K.json.Float) :=
  match claims.get "error" with
  | some err =>
    let text := K.json.print err
    .error s!"wasm component reported error: {text}"
  | none => do
    let verification := (claimText claims "verification").getD "missing"
    ensure (verification = "passed") s!"verification did not pass: {verification}"
    .ok claims

/-- Run a compiled component and check what it reports. -/
def evaluate (compiled : String → Option Component) (componentId : String) (evidence : Bytes)
    (expectedReportData expectedInitDataHash : Option Bytes) : Except String (EvaluateOutcome K) := do
  let component ← okOr s!"unknown component_id {componentId}" (compiled componentId)
  let raw ← component evidence expectedReportData expectedInitDataHash
  let claims ← (K.json.fromStr raw).mapError fun _ => s!"component returned non-json: {raw}"
  let claims ← passedClaims claims
  .ok { componentId, claims }

theorem passedClaims_ok {claims passed : Value K.json.Float} (accepted : passedClaims claims = .ok passed) :
    passed = claims ∧ claims.get "error" = none ∧ claimText claims "verification" = some "passed" := by
  cases reported : claims.get "error" with
  | some err => simp [passedClaims, reported] at accepted
  | none =>
    simp only [passedClaims, reported, Wire.bind_eq_ok, Wire.ensure_eq_ok] at accepted
    obtain ⟨_, verdict, same⟩ := accepted
    refine ⟨(Except.ok.inj same).symm, rfl, ?_⟩
    cases text : claimText claims "verification" with
    | none => simp [text] at verdict
    | some said =>
      rw [text, Option.getD_some] at verdict
      rw [verdict]

theorem evaluate_ok {compiled : String → Option Component} {componentId : String} {evidence : Bytes}
    {expected init : Option Bytes} {outcome : EvaluateOutcome K}
    (passed : evaluate compiled componentId evidence expected init = .ok outcome) :
    outcome.componentId = componentId ∧ ∃ component raw, compiled componentId = some component ∧
      component evidence expected init = .ok raw ∧ K.json.fromStr raw = .ok outcome.claims ∧
      outcome.claims.get "error" = none ∧ claimText outcome.claims "verification" = some "passed" := by
  simp only [evaluate, Wire.bind_eq_ok, Wire.mapError_eq_ok, Wire.okOr_eq_ok] at passed
  obtain ⟨component, held, raw, ran, read, reads, claims, checked, rest⟩ := passed
  obtain ⟨rfl, clean, verdict⟩ := passedClaims_ok checked
  cases rest
  exact ⟨rfl, component, raw, held, ran, reads, clean, verdict⟩

def enforceCcaPolicy (policy : CcaPolicy) (claims : Value K.json.Float) : Except String Unit := do
  if policy.trustedRimHex ≠ [] then do
    let rim ← okOr "claims.cca_realm_initial_measurement missing" (claimText claims "cca_realm_initial_measurement")
    ensure (policy.trustedRimHex.any (fun s => eqIgnoreAsciiCase s rim) = true) s!"rim '{rim}' not in trusted list"
  if policy.trustedSubjects ≠ [] then do
    let subject ← okOr "claims.subject missing" (claimText claims "subject")
    ensure (subject ∈ policy.trustedSubjects) s!"subject '{subject}' not in trusted list"

def matchHex (claim : Option String) (list : List String) (field : String) : Except String Unit := do
  if list ≠ [] then do
    let v ← okOr s!"claims.{field} missing" claim
    ensure (list.any (fun s => eqIgnoreAsciiCase s v) = true) s!"{field} '{v}' not in trusted list"

def enforceTdxPolicy (policy : TdxPolicy) (claims : Value K.json.Float) : Except String Unit := do
  matchHex (claimText claims "mr_td") policy.trustedMrTdHex "mr_td"
  matchHex (claimText claims "mr_seam") policy.trustedMrSeamHex "mr_seam"
  matchHex (claimText claims "mr_config_id") policy.trustedMrConfigIdHex "mr_config_id"
  if policy.acceptTcbStatus ≠ [] then do
    let s ← okOr "claims.tcb_status missing" (claimText claims "tcb_status")
    ensure (s ∈ policy.acceptTcbStatus) s!"tcb_status '{s}' not accepted"

/-- The claims of the appraiser that belongs to a family. -/
def Family.claims (K : Crates) (family : Family) (teeType : String) (evidence : Bytes) (expected init : Option Bytes) :
    Value K.json.Float :=
  match family with
  | .mock => mockClaims K evidence expected
  | .cca => ccaClaims K teeType evidence expected
  | .csv => csvClaims K teeType evidence expected
  | .tdx => tdxClaims K teeType evidence expected init
  | .itrustee => itrusteeClaims K teeType evidence expected
  | .virtcca => virtccaClaims K teeType evidence expected

theorem Appraiser.claims_eq {appraiser : Appraiser} {tee : TeeType} {evidence : Bytes} {expected init : Option Bytes}
    (named : appraiser.teeType = teeTypeStr tee) :
    appraiser.claims K evidence expected init = tee.family.claims K (teeTypeStr tee) evidence expected init := by
  cases appraiser <;> cases tee <;> first | rfl | exact absurd named (by decide)

/-- Step 4 for the families that have a policy here. -/
def AppState.enforcePolicy (A : AppState K) (claims : Value K.json.Float) : Family → Except Status Unit
  | .cca => (enforceCcaPolicy A.ccaPolicy claims).mapError .invalidArgument
  | .tdx => (enforceTdxPolicy A.tdxPolicy claims).mapError fun e => .invalidArgument s!"tdx: {e}"
  | _ => .ok ()

end Components

def trustVectorFor (family : Family) (nonceBound : Bool) (ccaLifecycle tcbStatus : Option String) : TrustVector :=
  match family with
  | .tdx =>
    let executables := match tcbStatus with
      | some "UpToDate" => 2
      | some "SWHardeningNeeded" | some "ConfigurationAndSWHardeningNeeded" => 1
      | some "OutOfDate" | some "Revoked" => 0
      | _ => 1
    { instanceIdentity := 2, configuration := 2, executables }
  | .cca =>
    let configuration := match ccaLifecycle with
      | some "secured" | some "secured_no_debug" => 2
      | some "not_secured" | some "recoverable" => 1
      | _ => 0
    { instanceIdentity := if nonceBound then 2 else 0, configuration, executables := 2 }
  | .csv => { instanceIdentity := if nonceBound then 2 else 0, configuration := 2, executables := 2 }
  | _ => TrustVector.affirming

section Service
variable {K}

/-- The expected init data hash: the first trusted `mr_config_id`, for TDX only. -/
def AppState.expectedInit (A : AppState K) : Family → Option Bytes
  | .tdx => A.tdxPolicy.trustedMrConfigIdHex.head?.bind hexDecode
  | _ => none

/-- Step 1: register the component bytes of the request, or take its id. -/
def componentIdOf (R : Registered) (req : VerifyRequest) : Except Status String :=
  match req.wasm with
  | some (.wasmComponent bytes) =>
    (R.register bytes).mapError fun e => .invalidArgument s!"component rejected: {e}"
  | some (.wasmComponentId id) => .ok id
  | none => .error (.invalidArgument "wasm required")

/-- The claims that an accepted request is answered with. -/
def AppState.appraise (A : AppState K) (R : Registered) (W : World K) (req : VerifyRequest) :
    Except Status (EarClaims K) := do
  let tee ← okOr (.invalidArgument "invalid tee_type") (TeeType.tryFrom req.teeType)
  ensure (tee ≠ .unspecified) (.invalidArgument "tee_type unspecified")
  ensure (req.nonce ≠ []) (.invalidArgument "nonce required")
  let componentId ← componentIdOf R req
  let host ← A.hostEvidence W req tee.family
  let evidenceForWasm := host.1
  let ccaLifecycle := host.2
  let outcome ← (evaluate (K := K) R.compiled componentId evidenceForWasm (some req.nonce)
    (A.expectedInit tee.family)).mapError fun e => Status.invalidArgument s!"evidence rejected: {e}"
  let teeKindStr := teeTypeStr tee
  let claimTee := (claimText outcome.claims "tee_type").getD "unknown"
  ensure (claimTee = teeKindStr) (.invalidArgument s!"tee_type mismatch: request={teeKindStr}, claim={claimTee}")
  A.enforcePolicy outcome.claims tee.family
  let nonceBound := ((outcome.claims.get "nonce_bound").bind Value.asBool).getD false
  .ok {
    iss := "unified-attestation-verifier"
    iat := W.issuedAt
    exp := some (W.expiresAt + 3600)
    eatNonce := K.encodeBase64Url req.nonce
    teeType := teeKindStr
    componentId := outcome.componentId
    submods := outcome.claims
    trustVector := trustVectorFor tee.family nonceBound ccaLifecycle (claimText outcome.claims "tcb_status")
    verifierId := { developer := "unified-attestation", build := none }
    eatProfile := some "tag:github.com,2024:unified-attestation" }

def AppState.verify (A : AppState K) (R : Registered) (W : World K) (req : VerifyRequest) :
    Except Status VerifyResponse := do
  let claims ← A.appraise R W req
  let ear ← (A.sign claims).mapError Status.internal
  .ok { ear, wasmComponentId := claims.componentId }

/-- Everything a request passed through on its way to an EAR. -/
structure Appraised (A : AppState K) (R : Registered) (W : World K) (req : VerifyRequest) (ear : EarClaims K)
    (tee : TeeType) (componentId : String) (evidence : Bytes) (lifecycle : Option String) : Prop where
  tee_type : TeeType.tryFrom req.teeType = some tee
  specified : tee ≠ .unspecified
  nonce : req.nonce ≠ []
  component : componentIdOf R req = .ok componentId
  host : A.hostEvidence W req tee.family = .ok (evidence, lifecycle)
  evaluated : evaluate (K := K) R.compiled componentId evidence (some req.nonce) (A.expectedInit tee.family) =
    .ok { componentId, claims := ear.submods }
  same_tee : claimText ear.submods "tee_type" = some (teeTypeStr tee)
  policy : A.enforcePolicy ear.submods tee.family = .ok ()
  issued : ear.iat = W.issuedAt
  eat_nonce : ear.eatNonce = K.encodeBase64Url req.nonce
  kind : ear.teeType = teeTypeStr tee
  component_id : ear.componentId = componentId
  trust : ear.trustVector = trustVectorFor tee.family (((ear.submods.get "nonce_bound").bind Value.asBool).getD false)
    lifecycle (claimText ear.submods "tcb_status")

theorem AppState.appraise_ok {A : AppState K} {R : Registered} {W : World K} {req : VerifyRequest}
    {ear : EarClaims K} (accepted : A.appraise R W req = .ok ear) :
    ∃ tee componentId evidence lifecycle, Appraised A R W req ear tee componentId evidence lifecycle := by
  simp only [appraise, Wire.bind_eq_ok, Wire.mapError_eq_ok, Wire.okOr_eq_ok, Wire.ensure_eq_ok] at accepted
  obtain ⟨tee, teeType, _, specified, _, nonce, componentId, component, ⟨evidence, lifecycle⟩, host, outcome, passed,
    _, same, _, policy, rest⟩ := accepted
  obtain ⟨rfl, _⟩ := evaluate_ok passed
  cases rest
  refine ⟨tee, outcome.componentId, evidence, lifecycle, {
    tee_type := teeType, specified, nonce, component, host, evaluated := passed, same_tee := ?_, policy,
    issued := rfl, eat_nonce := rfl, kind := rfl, component_id := rfl, trust := rfl }⟩
  cases text : claimText outcome.claims "tee_type" with
  | some said =>
    rw [text, Option.getD_some] at same
    rw [← same]
  | none =>
    rw [text, Option.getD_none] at same
    revert same
    cases tee <;> decide

/-- The shipped appraiser behind an EAR: it has the name of the request, and its claims
are the ones answered, up to one more reading. -/
theorem Appraised.ran {A : AppState K} {R : Registered} {W : World K} {req : VerifyRequest} {ear : EarClaims K}
    {tee : TeeType} {componentId : String} {evidence : Bytes} {lifecycle : Option String}
    (faithful : K.json.Faithful) (shipped : Shipped K R)
    (appraised : Appraised A R W req ear tee componentId evidence lifecycle) :
    ∃ appraiser : Appraiser, R.compiled componentId = some (appraiser.component K) ∧
      appraiser.teeType = teeTypeStr tee ∧
      (appraiser.claims K evidence (some req.nonce) (A.expectedInit tee.family)).get "error" = none ∧
      ∀ key, ear.submods.get key =
        ((appraiser.claims K evidence (some req.nonce) (A.expectedInit tee.family)).get key).map K.json.again := by
  obtain ⟨_, component, raw, held, ran, read, clean, _⟩ := evaluate_ok appraised.evaluated
  obtain ⟨appraiser, rfl⟩ := shipped _ _ held
  obtain ⟨members, object⟩ := appraiser.claims_object (K := K) evidence (some req.nonce) (A.expectedInit tee.family)
  have printed : raw = K.json.print (appraiser.claims K evidence (some req.nonce) (A.expectedInit tee.family)) :=
    (Except.ok.inj ran).symm
  rw [printed, Serde.fromStr, object] at read
  obtain ⟨kept, isObject, each⟩ := faithful.reads read
  simp only at isObject clean
  have same : ∀ key, ear.submods.get key =
      ((appraiser.claims K evidence (some req.nonce) (A.expectedInit tee.family)).get key).map K.json.again := by
    intro key
    rw [isObject, object]
    exact each key
  have quiet : (appraiser.claims K evidence (some req.nonce) (A.expectedInit tee.family)).get "error" = none := by
    rw [same] at clean
    exact Option.map_eq_none_iff.mp clean
  have named : appraiser.teeType = teeTypeStr tee := by
    have reported := Appraiser.claims_teeType quiet
    have kind := appraised.same_tee
    rw [claimText_again faithful (same "tee_type"), reported] at kind
    exact Option.some.inj kind
  exact ⟨appraiser, held, named, quiet, same⟩

/-- What a shipped component answered, up to one more reading. -/
theorem Appraised.shipped {A : AppState K} {R : Registered} {W : World K} {req : VerifyRequest} {ear : EarClaims K}
    {tee : TeeType} {componentId : String} {evidence : Bytes} {lifecycle : Option String}
    (faithful : K.json.Faithful) (shipped : Shipped K R)
    (appraised : Appraised A R W req ear tee componentId evidence lifecycle) :
    (tee.family.claims K (teeTypeStr tee) evidence (some req.nonce) (A.expectedInit tee.family)).get "error" = none ∧
      ∀ key, ear.submods.get key =
        ((tee.family.claims K (teeTypeStr tee) evidence (some req.nonce) (A.expectedInit tee.family)).get key).map
          K.json.again := by
  obtain ⟨appraiser, _, named, quiet, same⟩ := appraised.ran faithful shipped
  rw [Appraiser.claims_eq named] at quiet same
  exact ⟨quiet, same⟩

end Service

end UnifiedAttestation.Grpc
