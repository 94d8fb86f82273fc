import UnifiedAttestation.Protocol.Contents
import UnifiedAttestation.RelyingParty.Acceptance

/-! The gRPC flow between an honest attester, an honest verifier and the relying party.

The verifier gives an EAR for the evidence it vouches for, and the relying party accepts
it in both modes.
-/

set_option autoImplicit false

namespace UnifiedAttestation.Protocol

open Wire (Bytes okOr ensure)
open Json (Value Serde depthMembers)
open Grpc
open Attester (Agent Svc envelope)
open RelyingParty (Cli Outside AboutRequest GetEvidenceRequest GetEvidenceResponse Issue earMembers requested run
  teeTypeNumber checkFresh checkAffirming)

section Runs
variable {K : Crates} {A : AppState K} {R : Registered} {W : World K} {svc : Svc} {agent : Agent} {tee : TeeType}

/-- The verifier has the appraiser that the attester sends along. -/
structure Equipped (R : Registered) (K : Crates) (svc : Svc) (tee : TeeType) : Prop where
  configured : svc.cfg.teeType = tee
  specified : tee ≠ .unspecified
  component : ∃ id, ∃ appraiser : Appraiser, R.register svc.wasmBytes = .ok id ∧
    R.compiled id = some (appraiser.component K) ∧ appraiser.teeType = teeTypeStr tee

/-- The request about the evidence that the attester builds from its answer. -/
theorem honest_appraised (faithful : K.json.Faithful) (readsBack : K.json.ReadsBack)
    (decodes : ∀ bytes, K.decodeBase64 (K.encodeBase64 bytes) = .ok bytes)
    (clock : -(2 ^ 63) ≤ agent.nowSecs ∧ agent.nowSecs < 2 ^ 63) (equipped : Equipped R K svc tee) {nonce bytes : Bytes}
    (fresh : nonce ≠ []) (vouched : Vouched A W nonce bytes tee.family) :
    ∃ members, envelope K agent nonce bytes tee.family = some members ∧
      ∃ ear, A.appraise R W
          { teeType := teeTypeNumber tee, nonce, evidence := K.json.toVec (.object members),
            wasm := some (.wasmComponent svc.wasmBytes) } = .ok ear ∧
        ear.trustVector.executables = 2 ∧ ear.submods.depth ≤ 111 := by
  obtain ⟨id, appraiser, register, compiled, kind⟩ := equipped.component
  have wraps : ∃ members, envelope K agent nonce bytes tee.family = some members := by
    cases family : tee.family with
    | mock | cca | csv | tdx => exact ⟨_, rfl⟩
    | itrustee | virtcca =>
      rw [family] at vouched
      obtain ⟨obj, read, -⟩ := vouched
      refine ⟨Json.Map.insert obj "nonce" (.string (K.encodeBase64Url nonce)), ?_⟩
      simp only [envelope, read, Except.toOption, Option.bind_some, Value.asObject, Option.map_some]
  obtain ⟨members, wrapped⟩ := wraps
  refine ⟨members, wrapped, ?_⟩
  let req : VerifyRequest :=
    { teeType := teeTypeNumber tee, nonce, evidence := K.json.toVec (.object members),
      wasm := some (.wasmComponent svc.wasmBytes) }
  have component : componentIdOf R req = .ok id := by
    simp only [componentIdOf, req, register, Except.mapError]
  have content : ∃ evidence lifecycle claims, Content A W req tee evidence lifecycle claims := by
    cases family : tee.family with
    | mock =>
      have kind : tee = .mock := by
        have specified := equipped.specified
        cases tee <;> first | rfl | exact absurd rfl specified | cases family
      rw [family] at wrapped
      cases wrapped
      exact mock_content faithful readsBack clock kind rfl
    | cca =>
      rw [family] at vouched wrapped
      exact cca_content faithful readsBack decodes family vouched wrapped rfl
    | csv =>
      rw [family] at vouched wrapped
      exact csv_content faithful readsBack decodes family vouched wrapped rfl
    | tdx =>
      rw [family] at vouched wrapped
      exact tdx_content faithful readsBack decodes family vouched wrapped rfl
    | itrustee => exact itrustee_content faithful readsBack family (family ▸ vouched) wrapped rfl
    | virtcca => exact virtcca_content faithful readsBack family (family ▸ vouched) wrapped rfl
  obtain ⟨evidence, lifecycle, claims, content⟩ := content
  exact content.appraise faithful readsBack rfl equipped.specified fresh component compiled kind

/-- The nonce of a run: the relying party's own, or in passport mode the attester's. -/
def runNonce (cli : Cli) (outside : Outside K) (random : Bytes) : Bytes :=
  if cli.isPassport then random else outside.random

/-- The relying party reaches this attester and this verifier, and reads what is signed. -/
structure Deployed (cli : Cli) (outside : Outside K) (A : AppState K) (R : Registered) (W : World K) (svc : Svc)
    (agent : Agent) (connect : Attester.VerifierClient) (random : Bytes) (tee : TeeType) : Prop where
  asks : requested cli = .ok tee
  addresses : (∃ attester, cli.attester = some attester) ∧ ∃ verifier, cli.verifier = some verifier
  key : ∃ pubkey key, cli.pubkey = some pubkey ∧ outside.readKey pubkey = .ok key ∧
    ∀ ear token claims, A.sign ear = .ok token → K.json.fromSlice (K.json.toVec (.object (earMembers ear))) = .ok claims →
      outside.decode key token = .ok claims
  attester : ∀ address req, ∃ translate, outside.getEvidence address req =
    (svc.getEvidence K agent connect random req).mapError translate
  verifier : ∀ address req, ∃ translate, outside.verify address req = (A.verify R W req).mapError translate
  connects : cli.isPassport = true → ∃ endpoint verify, svc.cfg.verifierEndpoint = some endpoint ∧
    connect s!"http://{endpoint}" = .ok verify ∧ ∀ req, ∃ translate, verify req = (A.verify R W req).mapError translate
  writes : ∀ path ear, outside.writeEar path ear = .ok ()
  signs : ∀ claims, ∃ token, A.sign claims = .ok token ∧ token ≠ ""
  equipped : Equipped R K svc tee
  clocks : (-(2 ^ 63) ≤ agent.nowSecs ∧ agent.nowSecs < 2 ^ 63) ∧ 0 ≤ W.issuedAt ∧ W.issuedAt < 2 ^ 63
  recent : cli.isPassport = true → outside.now - 300 ≤ W.issuedAt ∧ W.issuedAt ≤ outside.now
  nonce : runNonce cli outside random ≠ []

/-- The claims of an issued EAR as the relying party reads them. -/
theorem told_claims (faithful : K.json.Faithful) (readsBack : K.json.ReadsBack) (nested : K.json.Nested)
    {ear : EarClaims K} (deep : ear.submods.depth ≤ 111) (affirming : ear.trustVector.executables = 2) :
    ∃ claims, K.json.fromSlice (K.json.toVec (.object (earMembers ear))) = .ok claims ∧
      checkAffirming claims = .ok () ∧
      ∀ key, claims.get key = (Json.Map.get (earMembers ear) key).map K.json.again := by
  have shallow : depthMembers (earMembers ear) ≤ 111 := by
    apply Json.depthMembers_insertSome _ fun _ held => scalar_depth (fun _ => rfl) held
    apply Json.depthMembers_insert
    · apply Json.depthMembers_insert
      · apply Json.depthMembers_insert _ deep
        apply Json.depthMembers_insert _ (Nat.zero_le _)
        apply Json.depthMembers_insert _ (Nat.zero_le _)
        apply Json.depthMembers_insert _ (Nat.zero_le _)
        apply Json.depthMembers_insertSome _ fun _ held => scalar_depth (fun _ => rfl) held
        simp [depthMembers, Value.depth]
      · simp [depthMembers, Value.depth]
    · have flat : depthMembers (Json.Map.insertSome [("developer", Value.string ear.verifierId.developer)] "build"
          (ear.verifierId.build.map .string) : Json.Map K.json.Float) ≤ 0 := by
        apply Json.depthMembers_insertSome _ fun _ held => scalar_depth (fun _ => rfl) held
        simp [depthMembers, Value.depth]
      rw [Value.depth]
      omega
  obtain ⟨kept, read, each, _⟩ := faithful.readBack readsBack (Nat.lt_of_le_of_lt shallow (by decide))
  refine ⟨.object kept, read, ?_, each⟩
  obtain ⟨vector, again, members, _⟩ := nested [
    ("instance_identity", .int ear.trustVector.instanceIdentity),
    ("configuration", .int ear.trustVector.configuration),
    ("executables", .int ear.trustVector.executables)]
  have held : (Value.object kept).get "trust_vector" = some (.object vector) := by
    rw [Value.get, each, ← again]
    simp [earMembers, Json.Map.get_insertSome, Json.Map.get_insert]
  have executables : ((Value.object vector).get "executables").bind Value.asI64 = some 2 := by
    have there : Json.Map.get vector "executables" = some (K.json.again (.int ear.trustVector.executables)) :=
      members "executables"
    rw [Value.get, there, Option.bind_some, faithful.again_asI64, affirming]
    rfl
  simp [checkAffirming, held, executables, okOr, ensure, bind, Except.bind]

/-- In background-check mode the attester hands out its evidence. -/
theorem getEvidence_background {connect : Attester.VerifierClient} {random nonce evidence : Bytes}
    (configured : svc.cfg.teeType = tee) (given : nonce ≠ [])
    (built : Attester.buildEvidence K agent tee nonce svc.cfg.aaEndpoint = .ok evidence) :
    svc.getEvidence K agent connect random { teeType := teeTypeNumber tee, nonce, mode := .backgroundCheck } =
      .ok { evidence, wasmComponent := svc.wasmBytes, generatedNonce := [], ear := "" } := by
  subst configured
  obtain ⟨first, rest, rfl⟩ := List.exists_cons_of_ne_nil given
  simp only [Svc.getEvidence, RelyingParty.tryFrom_teeTypeNumber, Attester.effectiveNonce, built, okOr, ensure,
    Except.mapError, bind, Except.bind, if_true]

/-- In passport mode it hands out the EAR that it has asked the verifier for. -/
theorem getEvidence_passport {connect : Attester.VerifierClient} {random evidence : Bytes} {endpoint : String}
    {verify : VerifyRequest → Except String VerifyResponse} {answer : VerifyResponse} (configured : svc.cfg.teeType = tee)
    (built : Attester.buildEvidence K agent tee random svc.cfg.aaEndpoint = .ok evidence)
    (addressed : svc.cfg.verifierEndpoint = some endpoint) (connects : connect s!"http://{endpoint}" = .ok verify)
    (answered : verify
      { teeType := teeTypeNumber tee, nonce := random, evidence, wasm := some (.wasmComponent svc.wasmBytes) } =
        .ok answer) :
    svc.getEvidence K agent connect random { teeType := teeTypeNumber tee, nonce := [], mode := .passport } =
      .ok { evidence := [], wasmComponent := [], generatedNonce := random, ear := answer.ear } := by
  subst configured
  simp only [Svc.getEvidence, Svc.fetchEar, RelyingParty.tryFrom_teeTypeNumber, Attester.effectiveNonce, built,
    addressed, connects, answered, okOr, ensure, Except.mapError, bind, Except.bind, if_true]

/-- What a run goes through when every answer is there and its checks are met. -/
theorem run_accepts {cli : Cli} {outside : Outside K} {attester verifier pubkey ear : String} {key : outside.Key}
    {answer : GetEvidenceResponse} {claims : Value K.json.Float} (attesterAt : cli.attester = some attester)
    (verifierAt : cli.verifier = some verifier) (asked : requested cli = .ok tee) (keyAt : cli.pubkey = some pubkey)
    (keyRead : outside.readKey pubkey = .ok key)
    (answered : outside.getEvidence attester
      { teeType := teeTypeNumber tee, nonce := if cli.isPassport then [] else outside.random
        mode := if cli.isPassport then .passport else .backgroundCheck } = .ok answer)
    (fetched : outside.fetchEar cli.isPassport verifier tee answer = .ok ear)
    (written : (cli.earOut.map fun path => outside.writeEar path ear).getD (.ok ()) = .ok ())
    (decoded : outside.decode key ear = .ok claims)
    (fresh : checkFresh cli.isPassport outside.random outside.now claims = .ok ())
    (affirms : checkAffirming claims = .ok ()) : run cli outside = .ok claims := by
  simp only [run, attesterAt, verifierAt, asked, keyAt, keyRead, answered, fetched, written, decoded, fresh, affirms,
    okOr, Except.mapError, bind, Except.bind]

theorem teeType_of_told {A : AppState K} {issue : Issue K} {claims : Value K.json.Float} (faithful : K.json.Faithful)
    (honest : issue.Honest A) (told : issue.Told claims) (number : issue.request.teeType = teeTypeNumber tee) :
    claims.get "tee_type" = some (.string (teeTypeStr tee)) := by
  obtain ⟨kind, same, claimed⟩ := told.tee_type faithful honest
  have one : some kind = some tee := by
    rw [← RelyingParty.tryFrom_teeTypeNumber, ← RelyingParty.tryFrom_teeTypeNumber tee, ← same, number]
  cases one
  exact claimed

theorem eatNonce_of_told {A : AppState K} {issue : Issue K} {claims : Value K.json.Float} (faithful : K.json.Faithful)
    (honest : issue.Honest A) (told : issue.Told claims) :
    claims.get "eat_nonce" = some (.string (K.encodeBase64Url issue.request.nonce)) := by
  obtain ⟨_, _, _, _, issued⟩ := AppState.appraise_ok honest.appraised
  rw [told.get faithful]
  simp [earMembers, Json.Map.get_insertSome, Json.Map.get_insert, issued.eat_nonce, faithful.again_string]

/-- What the verifier issues for the evidence that the attester builds. -/
theorem honest_issue (faithful : K.json.Faithful) (readsBack : K.json.ReadsBack) (nested : K.json.Nested)
    (decodes : ∀ bytes, K.decodeBase64 (K.encodeBase64 bytes) = .ok bytes) {nonce bytes : Bytes}
    (decodesUrl : agent.decodeBase64Url (K.encodeBase64Url nonce) = .ok nonce)
    (clock : -(2 ^ 63) ≤ agent.nowSecs ∧ agent.nowSecs < 2 ^ 63) (times : 0 ≤ W.issuedAt ∧ W.issuedAt < 2 ^ 63)
    (equipped : Equipped R K svc tee) (signs : ∀ claims, ∃ token, A.sign claims = .ok token ∧ token ≠ "")
    (fresh : nonce ≠ []) (answers : Attester.Answers K agent svc.cfg.aaEndpoint nonce bytes)
    (vouched : Vouched A W nonce bytes tee.family) :
    ∃ evidence, ∃ issue : Issue K, ∃ claims, issue.Honest A ∧ issue.Told claims ∧ issue.world = W ∧
      issue.request = { teeType := teeTypeNumber tee, nonce, evidence, wasm := some (.wasmComponent svc.wasmBytes) } ∧
      issue.token ≠ "" ∧ checkAffirming claims = .ok () ∧
      Attester.buildEvidence K agent tee nonce svc.cfg.aaEndpoint = .ok evidence ∧
      A.verify R W issue.request = .ok { ear := issue.token, wasmComponentId := issue.ear.componentId } := by
  obtain ⟨members, wrapped, ear, appraised, affirming, deep⟩ := honest_appraised faithful readsBack decodes clock equipped
    fresh vouched
  have built := Attester.buildEvidence_answers equipped.specified decodesUrl answers wrapped
  obtain ⟨token, signed, visible⟩ := signs ear
  obtain ⟨claims, told, affirms, -⟩ := told_claims faithful readsBack nested deep affirming
  refine ⟨_, ⟨R, W, _, ear, token⟩, claims, ⟨appraised, signed, times⟩, told, rfl, rfl, visible, affirms, built, ?_⟩
  simp only [AppState.verify, appraised, signed, Except.mapError, bind, Except.bind]

section Relying
variable {cli : Cli} {outside : Outside K} {connect : Attester.VerifierClient} {random : Bytes}

/-- The relying party gets the EAR for the evidence in both modes. -/
theorem ear_fetched (deployed : Deployed cli outside A R W svc agent connect random tee) (attester verifier : String)
    {evidence : Bytes} {token id : String} (visible : token ≠ "")
    (built : Attester.buildEvidence K agent tee (runNonce cli outside random) svc.cfg.aaEndpoint = .ok evidence)
    (verified : A.verify R W { teeType := teeTypeNumber tee, nonce := runNonce cli outside random, evidence
                               wasm := some (.wasmComponent svc.wasmBytes) } =
      .ok { ear := token, wasmComponentId := id }) :
    ∃ answer, outside.getEvidence attester
        { teeType := teeTypeNumber tee, nonce := if cli.isPassport then [] else outside.random
          mode := if cli.isPassport then .passport else .backgroundCheck } = .ok answer ∧
      outside.fetchEar cli.isPassport verifier tee answer = .ok token := by
  have configured := deployed.equipped.configured
  cases passport : cli.isPassport with
  | true =>
    simp only [runNonce, passport, if_true] at built verified
    obtain ⟨endpoint, verify, addressed, connects, same⟩ := deployed.connects passport
    obtain ⟨translate, answered⟩ := same _
    rw [verified] at answered
    obtain ⟨mapped, handed⟩ := deployed.attester attester { teeType := teeTypeNumber tee, nonce := [], mode := .passport }
    rw [getEvidence_passport configured built addressed connects answered] at handed
    refine ⟨_, handed, ?_⟩
    simp only [Outside.fetchEar, if_true, visible, ensure, ne_eq, not_false_eq_true, bind, Except.bind]
  | false =>
    simp only [runNonce, passport, Bool.false_eq_true, if_false] at built verified
    have given : outside.random ≠ [] := by
      simpa only [runNonce, passport, Bool.false_eq_true, if_false] using deployed.nonce
    obtain ⟨mapped, handed⟩ := deployed.attester attester
      { teeType := teeTypeNumber tee, nonce := outside.random, mode := .backgroundCheck }
    rw [getEvidence_background configured given built] at handed
    obtain ⟨translate, answered⟩ := deployed.verifier verifier
      { teeType := teeTypeNumber tee, nonce := outside.random, evidence, wasm := some (.wasmComponent svc.wasmBytes) }
    rw [verified] at answered
    refine ⟨_, handed, ?_⟩
    simp only [Outside.fetchEar, Bool.false_eq_true, if_false, answered, Except.mapError, bind, Except.bind]

/-- The claims are as fresh as the mode asks for: by their time in passport mode, else by
the nonce. -/
theorem fresh_of_told {issue : Issue K} {claims : Value K.json.Float} (faithful : K.json.Faithful)
    (deployed : Deployed cli outside A R W svc agent connect random tee) (honest : issue.Honest A)
    (told : issue.Told claims) (world : issue.world = W) (nonce : issue.request.nonce = runNonce cli outside random) :
    checkFresh cli.isPassport outside.random outside.now claims = .ok () ∧
      if cli.isPassport then
        ∃ iat, (claims.get "iat").bind Value.asI64 = some iat ∧ outside.now - 300 ≤ iat ∧ iat ≤ outside.now
      else claims.get "eat_nonce" = some (.string (K.encodeBase64Url outside.random)) := by
  cases passport : cli.isPassport with
  | true =>
    have recent := deployed.recent passport
    have iat := told.iat faithful honest
    rw [world] at iat
    refine ⟨?_, _, iat, recent.1, recent.2⟩
    simp only [checkFresh, if_true, iat, Option.getD_some, Wire.ensure_eq_ok]
    omega
  | false =>
    have eatNonce := eatNonce_of_told faithful honest told
    simp only [nonce, runNonce, passport, Bool.false_eq_true, if_false] at eatNonce
    refine ⟨?_, eatNonce⟩
    simp [checkFresh, eatNonce, Value.asStr, okOr, ensure, bind, Except.bind]

end Relying

/-- An honest attester whose evidence the verifier vouches for is accepted in both modes, by
claims about what was asked for. -/
theorem honest_run_accepted {cli : Cli} {outside : Outside K} {connect : Attester.VerifierClient} {random bytes : Bytes}
    (faithful : K.json.Faithful) (readsBack : K.json.ReadsBack) (nested : K.json.Nested)
    (decodes : ∀ bytes, K.decodeBase64 (K.encodeBase64 bytes) = .ok bytes)
    (decodesUrl : agent.decodeBase64Url (K.encodeBase64Url (runNonce cli outside random)) =
      .ok (runNonce cli outside random))
    (deployed : Deployed cli outside A R W svc agent connect random tee)
    (answers : Attester.Answers K agent svc.cfg.aaEndpoint (runNonce cli outside random) bytes)
    (vouched : Vouched A W (runNonce cli outside random) bytes tee.family) :
    ∃ claims, run cli outside = .ok claims ∧ AboutRequest cli outside tee claims := by
  obtain ⟨evidence, issue, claims, honest, told, world, request, visible, affirms, built, verified⟩ :=
    honest_issue faithful readsBack nested decodes decodesUrl deployed.clocks.1 deployed.clocks.2 deployed.equipped
      deployed.signs deployed.nonce answers vouched
  obtain ⟨⟨attester, attesterAt⟩, verifier, verifierAt⟩ := deployed.addresses
  obtain ⟨pubkey, key, keyAt, keyRead, reads⟩ := deployed.key
  have decoded := reads issue.ear issue.token claims honest.signed told
  have named := teeType_of_told faithful honest told (congrArg VerifyRequest.teeType request)
  obtain ⟨fresh, about⟩ := fresh_of_told faithful deployed honest told world (congrArg VerifyRequest.nonce request)
  have written : (cli.earOut.map fun path => outside.writeEar path issue.token).getD (.ok ()) = .ok () := by
    cases cli.earOut with
    | none => rfl
    | some path => exact deployed.writes path issue.token
  rw [request] at verified
  obtain ⟨answer, given, fetched⟩ := ear_fetched deployed attester verifier visible built verified
  have accepted := run_accepts attesterAt verifierAt deployed.asks keyAt keyRead given fetched written decoded fresh
    affirms
  exact ⟨claims, accepted, ⟨pubkey, key, issue.token, keyAt, keyRead, decoded⟩, named,
    RelyingParty.checkAffirming_ok affirms, about⟩

/-- A verifier whose tokens are the claims as they are printed. -/
def plainState : AppState compactCrates :=
  { measuredState [] with sign := fun ear => .ok (compactCrates.json.print (.object (earMembers ear))) }

def plainVerify (req : VerifyRequest) : Except String VerifyResponse :=
  (plainState.verify measuredRegistered (referenceWorld compactCrates 0) req).mapError fun _ => "verifier"

def plainAgent : Agent where
  decodeBase64Url text := if text = urlSafeBase64 [1] then .ok [1] else .error text
  get url := if url = Attester.evidenceUrl compactCrates "http://aa" [1] then .ok (.ok measuredToken) else .error url
  nowSecs := 0

def plainSvc : Svc where
  cfg := { teeType := .cca, aaEndpoint := "http://aa", verifierEndpoint := some "verifier" }
  wasmBytes := []

def plainOutside : Outside compactCrates where
  Key := Unit
  readKey _ := .ok ()
  getEvidence _ req := (plainSvc.getEvidence compactCrates plainAgent (fun _ => .ok plainVerify) [1] req).mapError fun _ =>
    "attester"
  verify _ := plainVerify
  writeEar _ _ := .ok ()
  decode _ token := compactCrates.json.fromSlice (Wire.utf8 token)
  random := [2]
  now := 60

def plainCli : Cli where
  attester := some "attester"
  verifier := some "verifier"
  teeType := some "cca"
  pubkey := some "pubkey"
  mode := "passport"
  earOut := none

/-- The token's measurement is the trusted one, however the EAR is signed. -/
theorem measured_answers (sign : EarClaims compactCrates → Except String String) :
    Vouched { measuredState [] with sign } (referenceWorld compactCrates 0) [1] measuredToken .cca :=
  ⟨rfl, ccaResult compactCrates measuredToken, rfl, fun _ => ⟨"ab", by decide, "AB", List.mem_cons_self,
    by decide⟩⟩

theorem honest_run_accepted_passport :
    ∃ claims, run plainCli plainOutside = .ok claims ∧ AboutRequest plainCli plainOutside .cca claims := by
  have deployed : Deployed plainCli plainOutside plainState measuredRegistered (referenceWorld compactCrates 0) plainSvc
      plainAgent (fun _ => .ok plainVerify) [1] .cca := {
    asks := rfl
    addresses := ⟨⟨_, rfl⟩, _, rfl⟩
    key := by
      refine ⟨"pubkey", (), rfl, rfl, fun ear token claims signed read => ?_⟩
      cases signed
      exact read
    attester := fun _ _ => ⟨_, rfl⟩
    verifier := fun _ _ => ⟨_, rfl⟩
    connects := fun _ => ⟨_, _, rfl, rfl, fun _ => ⟨_, rfl⟩⟩
    writes := fun _ _ => rfl
    signs := fun claims => ⟨_, rfl, fun empty => by
      have opened := congrArg String.toList empty
      simp [compactCrates, Serde.compact, Value.render] at opened⟩
    equipped := ⟨rfl, by decide, "cca", .cca, rfl, rfl, rfl⟩
    clocks := by decide
    recent := by decide
    nonce := by decide }
  have vouched : Vouched plainState (referenceWorld compactCrates 0) [1] measuredToken .cca :=
    measured_answers plainState.sign
  exact honest_run_accepted Serde.compact_faithful Serde.compact_readsBack
    Serde.compact_nested compact_decodes (by decide) deployed
    (by rw [Attester.Answers]; rfl) vouched

end Runs

end UnifiedAttestation.Protocol
