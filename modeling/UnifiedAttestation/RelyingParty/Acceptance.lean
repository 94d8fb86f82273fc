import UnifiedAttestation.Grpc.Reference

/-! The gRPC flow of the relying party, next to an honest verifier.

In background-check mode the relying party sends the evidence to the verifier itself;
in passport mode the attester hands in the EAR. The attester answers anything, and the
verifier has answered any requests of anybody before.
-/

set_option autoImplicit false

namespace UnifiedAttestation.RelyingParty

open Wire (Bytes okOr ensure)
open Json (Value Serde)
open Grpc

section Arguments

def parseTeeType : String → Except String TeeType
  | "mock" => .ok .mock
  | "cca" => .ok .cca
  | "cca-hydra" => .ok .ccaHydra
  | "csv" => .ok .csv
  | "csv-hydra" => .ok .csvHydra
  | "tdx" => .ok .tdx
  | "tdx-hydra" => .ok .tdxHydra
  | "itrustee" => .ok .itrustee
  | "itrustee-hydra" => .ok .itrusteeHydra
  | "virtcca" => .ok .virtcca
  | "virtcca-hydra" => .ok .virtccaHydra
  | other => .error s!"invalid tee_type '{other}'"

/-- The number of a TEE type in a message. -/
def teeTypeNumber : TeeType → Int
  | .unspecified => 0
  | .mock => 1
  | .cca => 2
  | .ccaHydra => 3
  | .tdx => 4
  | .tdxHydra => 5
  | .csv => 6
  | .csvHydra => 7
  | .itrustee => 8
  | .virtcca => 9
  | .itrusteeHydra => 10
  | .virtccaHydra => 11

theorem tryFrom_teeTypeNumber (tee : TeeType) : TeeType.tryFrom (teeTypeNumber tee) = some tee := by
  cases tee <;> rfl

theorem teeTypeNumber_of_tryFrom {number : Int} {tee : TeeType} (known : TeeType.tryFrom number = some tee) :
    number = teeTypeNumber tee := by
  unfold TeeType.tryFrom at known
  split at known <;> first | (cases known; rfl) | cases known

structure Cli where
  attester : Option String
  verifier : Option String
  teeType : Option String
  pubkey : Option String
  mode : String
  earOut : Option String

end Arguments

section Flow
variable (K : Crates)

inductive AttestationMode where
  | backgroundCheck | passport

structure GetEvidenceRequest where
  teeType : Int
  nonce : Bytes
  mode : AttestationMode

structure GetEvidenceResponse where
  evidence : Bytes
  wasmComponent : Bytes
  generatedNonce : Bytes
  ear : String

/-- What the relying party reaches: its files, the attester, the verifier, its random
numbers and its clock. `decode` is the ES256 check of a trimmed token that asks for no
claim and no expiry. -/
structure Outside where
  Key : Type
  readKey : String → Except String Key
  getEvidence : String → GetEvidenceRequest → Except String GetEvidenceResponse
  verify : String → VerifyRequest → Except String VerifyResponse
  writeEar : String → String → Except String Unit
  decode : Key → String → Except String (Value K.json.Float)
  random : Bytes
  now : Int

variable {K}

def Cli.isPassport (cli : Cli) : Bool := cli.mode == "passport"

/-- The EAR to be judged: handed in by the attester, or asked of the verifier. -/
def Outside.fetchEar (outside : Outside K) (passport : Bool) (verifier : String) (tee : TeeType)
    (evidence : GetEvidenceResponse) : Except String String :=
  if passport then do
    ensure (evidence.ear ≠ "") "passport mode requires verifier_endpoint configured on attester"
    .ok evidence.ear
  else do
    let resp ← (outside.verify verifier {
      teeType := teeTypeNumber tee
      nonce := outside.random
      evidence := evidence.evidence
      wasm := some (.wasmComponent evidence.wasmComponent) }).mapError fun _ => "verifier Verify"
    .ok resp.ear

/-- Both times are `i64` counts of seconds since the epoch, so the difference from the time
of an issued EAR does not overflow. -/
def checkFresh (passport : Bool) (nonce : Bytes) (now : Int) (claims : Value K.json.Float) : Except String Unit :=
  if passport then do
    let iat := ((claims.get "iat").bind Value.asI64).getD 0
    ensure (now - iat ≤ 300) s!"EAR expired: iat={iat}, now={now}, delta={now - iat}"
  else do
    let eatNonce ← okOr "missing eat_nonce" ((claims.get "eat_nonce").bind Value.asStr)
    let expected := K.encodeBase64Url nonce
    ensure (eatNonce = expected) s!"eat_nonce mismatch: ear={eatNonce}, expected={expected}"

def checkAffirming (claims : Value K.json.Float) : Except String Unit := do
  let trustVector ← okOr "missing trust_vector" (claims.get "trust_vector")
  let executables := ((trustVector.get "executables").bind Value.asI64).getD 0
  ensure (2 ≤ executables) s!"EAR not affirming: executables = {executables}"

def requested (cli : Cli) : Except String TeeType := do
  let text ← okOr "--tee-type required" cli.teeType
  parseTeeType text

/-- A run of the gRPC flow; the claims it returns are those it has accepted. -/
def run (cli : Cli) (outside : Outside K) : Except String (Value K.json.Float) := do
  let attester ← okOr "--attester required" cli.attester
  let verifier ← okOr "--verifier required" cli.verifier
  let tee ← requested cli
  let pubkey ← okOr "--pubkey required" cli.pubkey
  let key ← outside.readKey pubkey
  let evidence ← (outside.getEvidence attester {
    teeType := teeTypeNumber tee
    nonce := if cli.isPassport then [] else outside.random
    mode := if cli.isPassport then .passport else .backgroundCheck }).mapError fun _ => "attester GetEvidence"
  let ear ← outside.fetchEar cli.isPassport verifier tee evidence
  (cli.earOut.map fun path => outside.writeEar path ear).getD (.ok ())
  let claims ← (outside.decode key ear).mapError fun _ => "decode/verify EAR"
  checkFresh cli.isPassport outside.random outside.now claims
  checkAffirming claims
  .ok claims

/-- What an accepted run went through. -/
theorem run_ok {cli : Cli} {outside : Outside K} {claims : Value K.json.Float}
    (accepted : run cli outside = .ok claims) :
    ∃ verifier tee pubkey key evidence ear, requested cli = .ok tee ∧ cli.pubkey = some pubkey ∧
      outside.readKey pubkey = .ok key ∧ outside.fetchEar cli.isPassport verifier tee evidence = .ok ear ∧
      outside.decode key ear = .ok claims ∧ checkFresh cli.isPassport outside.random outside.now claims = .ok () ∧
      checkAffirming claims = .ok () := by
  simp only [run, Wire.bind_eq_ok, Wire.mapError_eq_ok, Wire.okOr_eq_ok] at accepted
  obtain ⟨_, _, verifier, _, tee, asked, pubkey, path, key, read, evidence, _, ear, fetched, _, _, decoded, decodes, _,
    fresh, _, affirming, same⟩ := accepted
  cases same
  exact ⟨verifier, tee, pubkey, key, evidence, ear, asked, path, read, fetched, decodes, fresh, affirming⟩

end Flow

section Honest
variable {K : Crates}

/-- The members of a serialised EAR. -/
def earMembers (ear : EarClaims K) : Json.Map K.json.Float :=
  let obj : Json.Map K.json.Float := [("iss", .string ear.iss), ("iat", .int ear.iat)]
  let obj := Json.Map.insertSome obj "exp" (ear.exp.map .int)
  let obj := Json.Map.insert obj "eat_nonce" (.string ear.eatNonce)
  let obj := Json.Map.insert obj "tee_type" (.string ear.teeType)
  let obj := Json.Map.insert obj "component_id" (.string ear.componentId)
  let obj := Json.Map.insert obj "submods" ear.submods
  let obj := Json.Map.insert obj "trust_vector" (.object [
    ("instance_identity", .int ear.trustVector.instanceIdentity),
    ("configuration", .int ear.trustVector.configuration),
    ("executables", .int ear.trustVector.executables)])
  let obj := Json.Map.insert obj "verifier_id" (.object (Json.Map.insertSome
    [("developer", .string ear.verifierId.developer)] "build" (ear.verifierId.build.map .string)))
  Json.Map.insertSome obj "eat_profile" (ear.eatProfile.map .string)

variable (K) in
/-- A Verify call that the verifier has answered with an EAR. -/
structure Issue where
  registered : Registered
  world : World K
  request : VerifyRequest
  ear : EarClaims K
  token : String

/-- The call went through `verify`, at a time since the epoch that an `i64` holds. -/
structure Issue.Honest (A : AppState K) (issue : Issue K) : Prop where
  appraised : A.appraise issue.registered issue.world issue.request = .ok issue.ear
  signed : A.sign issue.ear = .ok issue.token
  clock : 0 ≤ issue.world.issuedAt ∧ issue.world.issuedAt < 2 ^ 63

/-- The claims are what the payload of the issued token reads as. -/
def Issue.Told (issue : Issue K) (claims : Value K.json.Float) : Prop :=
  K.json.fromSlice (K.json.toVec (.object (earMembers issue.ear))) = .ok claims

/-- The verifier behind the configured key and address is honest: it has answered the
calls of the history, no other token verifies under its key, and what it has signed
reads back. -/
structure Outside.Honest (A : AppState K) (cli : Cli) (outside : Outside K) (history : List (Issue K)) : Prop where
  issued : ∀ issue ∈ history, issue.Honest A
  answers : ∀ address req resp, outside.verify address req = .ok resp →
    ∃ issue ∈ history, issue.request = req ∧ issue.token = resp.ear
  unforgeable : ∀ pubkey key token claims, cli.pubkey = some pubkey → outside.readKey pubkey = .ok key →
    outside.decode key token = .ok claims → ∃ issue ∈ history, issue.Told claims
  decodes : ∀ issue ∈ history, ∀ key claims, outside.decode key issue.token = .ok claims → issue.Told claims

theorem Issue.Told.get {issue : Issue K} {claims : Value K.json.Float} (told : issue.Told claims)
    (faithful : K.json.Faithful) (key : String) :
    claims.get key = (Json.Map.get (earMembers issue.ear) key).map K.json.again := by
  obtain ⟨kept, rfl, each⟩ := faithful.reads told
  exact each key

theorem Issue.Told.tee_type {A : AppState K} {issue : Issue K} {claims : Value K.json.Float} (told : issue.Told claims)
    (faithful : K.json.Faithful) (honest : issue.Honest A) :
    ∃ tee, issue.request.teeType = teeTypeNumber tee ∧ claims.get "tee_type" = some (.string (teeTypeStr tee)) := by
  obtain ⟨tee, _, _, _, appraised⟩ := AppState.appraise_ok honest.appraised
  refine ⟨tee, teeTypeNumber_of_tryFrom appraised.tee_type, ?_⟩
  rw [told.get faithful, ← appraised.kind]
  simp [earMembers, Json.Map.get_insertSome, Json.Map.get_insert, faithful.again_string]

theorem Issue.Told.iat {A : AppState K} {issue : Issue K} {claims : Value K.json.Float} (told : issue.Told claims)
    (faithful : K.json.Faithful) (honest : issue.Honest A) :
    (claims.get "iat").bind Value.asI64 = some issue.world.issuedAt := by
  obtain ⟨_, _, _, _, appraised⟩ := AppState.appraise_ok honest.appraised
  have member : Json.Map.get (earMembers issue.ear) "iat" = some (.int issue.world.issuedAt) := by
    rw [← appraised.issued]
    simp [earMembers, Json.Map.get_insertSome, Json.Map.get_insert]
  rw [told.get faithful, member, Option.map_some, Option.bind_some, faithful.again_asI64, Value.asI64,
    if_pos ⟨Int.le_trans (by decide) honest.clock.1, honest.clock.2⟩]

theorem checkFresh_passport {nonce : Bytes} {now : Int} {claims : Value K.json.Float} {iat : Int}
    (fresh : checkFresh true nonce now claims = .ok ()) (read : (claims.get "iat").bind Value.asI64 = some iat) :
    now - 300 ≤ iat := by
  simp only [checkFresh, if_true, Wire.ensure_eq_ok, read, Option.getD_some] at fresh
  omega

theorem checkFresh_background {nonce : Bytes} {now : Int} {claims : Value K.json.Float}
    (fresh : checkFresh false nonce now claims = .ok ()) :
    claims.get "eat_nonce" = some (.string (K.encodeBase64Url nonce)) := by
  simp only [checkFresh, Bool.false_eq_true, if_false, Wire.bind_eq_ok, Wire.okOr_eq_ok, Wire.ensure_eq_ok] at fresh
  obtain ⟨text, held, same⟩ := fresh
  obtain ⟨value, there, read⟩ := Option.bind_eq_some_iff.mp held
  rw [there, Value.asStr_eq_some.mp read, same]

theorem checkAffirming_ok {claims : Value K.json.Float} (affirming : checkAffirming claims = .ok ()) :
    ∃ trustVector executables, claims.get "trust_vector" = some trustVector ∧
      (trustVector.get "executables").bind Value.asI64 = some executables ∧ 2 ≤ executables := by
  simp only [checkAffirming, Wire.bind_eq_ok, Wire.okOr_eq_ok, Wire.ensure_eq_ok] at affirming
  obtain ⟨trustVector, held, enough⟩ := affirming
  cases read : (trustVector.get "executables").bind Value.asI64 with
  | none => simp [read] at enough
  | some executables =>
    rw [read, Option.getD_some] at enough
    exact ⟨trustVector, executables, held, read, enough⟩

/-- The accepted claims are about what was asked for: signed, of the requested type,
affirming and fresh. -/
structure AboutRequest (cli : Cli) (outside : Outside K) (tee : TeeType) (claims : Value K.json.Float) : Prop where
  verified : ∃ pubkey key token, cli.pubkey = some pubkey ∧ outside.readKey pubkey = .ok key ∧
    outside.decode key token = .ok claims
  tee_type : claims.get "tee_type" = some (.string (teeTypeStr tee))
  affirming : ∃ trustVector executables, claims.get "trust_vector" = some trustVector ∧
    (trustVector.get "executables").bind Value.asI64 = some executables ∧ 2 ≤ executables
  fresh : if cli.isPassport then
      ∃ iat, (claims.get "iat").bind Value.asI64 = some iat ∧ outside.now - 300 ≤ iat ∧ iat ≤ outside.now
    else claims.get "eat_nonce" = some (.string (K.encodeBase64Url outside.random))

/-- The accepted claims were issued by the verifier, and they are about what was asked
for exactly in background-check mode and when the attester handed in the EAR of a
request for this type that is not from the future. -/
theorem accepted_about_request_iff {A : AppState K} {cli : Cli} {outside : Outside K} {history : List (Issue K)}
    {claims : Value K.json.Float} (faithful : K.json.Faithful) (honest : outside.Honest A cli history)
    (accepted : run cli outside = .ok claims) :
    ∃ tee, requested cli = .ok tee ∧ (∃ issue ∈ history, issue.Told claims) ∧
      ∀ issue ∈ history, issue.Told claims →
        (AboutRequest cli outside tee claims ↔ cli.mode ≠ "passport" ∨
          issue.request.teeType = teeTypeNumber tee ∧ issue.world.issuedAt ≤ outside.now) := by
  obtain ⟨verifier, tee, pubkey, key, evidence, ear, asked, path, read, fetched, decodes, fresh, affirming⟩ :=
    run_ok accepted
  refine ⟨tee, asked, honest.unforgeable pubkey key ear claims path read decodes, fun issue issued told => ?_⟩
  have verified : ∃ pubkey key token, cli.pubkey = some pubkey ∧ outside.readKey pubkey = .ok key ∧
      outside.decode key token = .ok claims := ⟨pubkey, key, ear, path, read, decodes⟩
  by_cases passport : cli.mode = "passport"
  · have isPassport : cli.isPassport = true := by simp [Cli.isPassport, passport]
    rw [isPassport] at fresh
    have iat := told.iat faithful (honest.issued issue issued)
    obtain ⟨kind, number, claimed⟩ := told.tee_type faithful (honest.issued issue issued)
    constructor
    · intro about
      have same : teeTypeStr kind = teeTypeStr tee :=
        Value.string.inj (Option.some.inj (claimed.symm.trans about.tee_type))
      have recent := about.fresh
      rw [if_pos isPassport] at recent
      obtain ⟨time, told', _, past⟩ := recent
      cases iat.symm.trans told'
      exact .inr ⟨teeTypeStr_injective same ▸ number, past⟩
    · rintro (background | ⟨same, past⟩)
      · exact absurd passport background
      · have kinds : some kind = some tee := by
          rw [← tryFrom_teeTypeNumber, ← tryFrom_teeTypeNumber tee, ← number, same]
        cases kinds
        refine ⟨verified, claimed, checkAffirming_ok affirming, ?_⟩
        rw [if_pos isPassport]
        exact ⟨_, iat, checkFresh_passport fresh iat, past⟩
  · have background : cli.isPassport = false := by simp [Cli.isPassport, passport]
    rw [background] at fresh fetched
    refine ⟨fun _ => .inl passport, fun _ => ⟨verified, ?_, checkAffirming_ok affirming, ?_⟩⟩
    · -- the EAR is the verifier's answer to this run's own request
      simp only [Outside.fetchEar, Bool.false_eq_true, if_false, Wire.bind_eq_ok, Wire.mapError_eq_ok] at fetched
      obtain ⟨resp, answered, same⟩ := fetched
      cases same
      obtain ⟨own, ownIssued, ownRequest, ownToken⟩ := honest.answers _ _ _ answered
      have ownTold := honest.decodes own ownIssued key claims (ownToken ▸ decodes)
      obtain ⟨kind, number, claimed⟩ := ownTold.tee_type faithful (honest.issued own ownIssued)
      have kinds : some kind = some tee := by
        rw [← tryFrom_teeTypeNumber, ← tryFrom_teeTypeNumber tee, ← number, ownRequest]
      cases kinds
      exact claimed
    · rw [if_neg (by simp [background])]
      exact checkFresh_background fresh

end Honest

section Handed

/-- An EAR for mock evidence, handed in to a relying party that asks for CCA. -/
def handedEvidence : Value Empty := .object [("payload", .string "demo"), ("issued_at", .int 0)]

def handedSubmods : Value Empty :=
  .object [
    ("tee_type", .string "mock"),
    ("verification", .string "passed"),
    ("payload", .string "demo"),
    ("challenge_binding_data", .string (standardBase64 [7])),
    ("issued_at", .int 0)]

def handedClaims : Value Empty :=
  .object [
    ("iss", .string "unified-attestation-verifier"),
    ("iat", .int 0),
    ("exp", .int 3600),
    ("eat_nonce", .string (urlSafeBase64 [7])),
    ("tee_type", .string "mock"),
    ("component_id", .string "mock"),
    ("submods", handedSubmods),
    ("trust_vector", .object [("instance_identity", .int 2), ("configuration", .int 2), ("executables", .int 2)]),
    ("verifier_id", .object [("developer", .string "unified-attestation")]),
    ("eat_profile", .string "tag:github.com,2024:unified-attestation")]

def handedCrates : Crates := referenceCrates [handedEvidence, handedSubmods, handedClaims]

instance : DecidableEq handedCrates.json.Float := inferInstanceAs (DecidableEq Empty)

def handedState : AppState handedCrates := referenceState handedCrates none none

def handedRequest : VerifyRequest where
  teeType := 1
  nonce := [7]
  evidence := Wire.utf8 (handedEvidence.render Empty.elim)
  wasm := some (.wasmComponentId "mock")

def handedToken : String := urlSafeBase64 [7]

def handedOutside : Outside handedCrates where
  Key := Unit
  readKey _ := .ok ()
  getEvidence _ _ := .ok { evidence := [], wasmComponent := [], generatedNonce := [7], ear := handedToken }
  verify address _ := .error address
  writeEar _ _ := .ok ()
  decode _ token := if token = handedToken then .ok handedClaims else .error "InvalidToken"
  random := []
  now := 0

def handedCli : Cli where
  attester := some "attester"
  verifier := some "verifier"
  teeType := some "cca"
  pubkey := some "verifier.pub"
  mode := "passport"
  earOut := none

/-- The call of the attester that it has the EAR from. -/
theorem handed_issue : ∃ issue : Issue handedCrates, issue.request = handedRequest ∧ issue.world.issuedAt = 0 ∧
    issue.Honest handedState ∧ issue.token = handedToken ∧ issue.Told handedClaims := by
  have answered : (handedState.appraise (referenceRegistered handedCrates .mock) (referenceWorld handedCrates 0)
      handedRequest).toOption.any (fun ear => decide (handedState.sign ear = .ok handedToken ∧
        handedCrates.json.fromSlice (handedCrates.json.toVec (.object (earMembers ear))) = .ok handedClaims)) =
      true := by
    decide +kernel
  cases appraised : handedState.appraise (referenceRegistered handedCrates .mock) (referenceWorld handedCrates 0)
      handedRequest with
  | error status => simp [appraised, Except.toOption] at answered
  | ok ear =>
    rw [appraised] at answered
    obtain ⟨signed, told⟩ := of_decide_eq_true answered
    have clock : (0 : Int) ≤ 0 ∧ (0 : Int) < 2 ^ 63 := by decide
    exact ⟨⟨_, _, handedRequest, ear, handedToken⟩, rfl, rfl, ⟨appraised, signed, clock⟩, rfl, told⟩

theorem handed_honest {issue : Issue handedCrates} (honest : issue.Honest handedState)
    (token : issue.token = handedToken) (told : issue.Told handedClaims) :
    handedOutside.Honest handedState handedCli [issue] where
  issued held := fun listed => List.mem_singleton.mp listed ▸ honest
  answers _ _ _ answered := by cases answered
  unforgeable _ _ presented claims _ _ decodes := by
    refine ⟨issue, List.mem_singleton.mpr rfl, ?_⟩
    by_cases own : presented = handedToken
    · simp only [handedOutside, own, if_true] at decodes
      exact Except.ok.inj decodes ▸ told
    · simp only [handedOutside, own, if_false] at decodes
      cases decodes
  decodes held listed _ claims decodes := by
    obtain rfl := List.mem_singleton.mp listed
    simp only [handedOutside, token, if_true] at decodes
    exact Except.ok.inj decodes ▸ told

theorem handed_accepted : run handedCli handedOutside = .ok handedClaims := by
  decide

/-- A relying party that asks for CCA in passport mode accepts the EAR of a mock. -/
theorem mock_accepted_for_cca :
    ∃ history, handedOutside.Honest handedState handedCli history ∧ requested handedCli = .ok .cca ∧
      run handedCli handedOutside = .ok handedClaims ∧ ¬ AboutRequest handedCli handedOutside .cca handedClaims := by
  obtain ⟨issue, _, _, honest, token, told⟩ := handed_issue
  refine ⟨[issue], handed_honest honest token told, rfl, handed_accepted, fun about => ?_⟩
  have texts : "mock" = "cca" := Value.string.inj (Option.some.inj about.tee_type)
  exact absurd texts (by decide)

theorem accepted_about_request_iff_mock :
    ∃ tee, requested handedCli = .ok tee ∧ ∃ issue : Issue handedCrates, issue.request = handedRequest ∧
      (AboutRequest handedCli handedOutside tee handedClaims ↔ handedCli.mode ≠ "passport" ∨
        issue.request.teeType = teeTypeNumber tee ∧ issue.world.issuedAt ≤ handedOutside.now) := by
  have faithful : handedCrates.json.Faithful := Serde.ofTable_faithful (by decide) (by decide)
  obtain ⟨issue, request, _, honest, token, told⟩ := handed_issue
  obtain ⟨tee, asked, _, iff⟩ :=
    accepted_about_request_iff faithful (handed_honest honest token told) handed_accepted
  exact ⟨tee, asked, issue, request, iff issue (List.mem_singleton.mpr rfl) told⟩

end Handed

end UnifiedAttestation.RelyingParty
