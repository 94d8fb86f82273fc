import UnifiedAttestation.Protocol.Appraisals

/-! Where accepted claims come from.

With an honest attester behind the relying party, every accepted EAR was issued for one
Verify call: for its own TEE, for the nonce of the run and over evidence built for it.
-/

set_option autoImplicit false

namespace UnifiedAttestation.Protocol

open Wire (Bytes ensure)
open Json (Value Serde)
open Grpc
open Attester (Agent Svc)
open RelyingParty (Cli Outside GetEvidenceRequest GetEvidenceResponse Issue requested run teeTypeNumber checkFresh
  checkAffirming)

section Provenance
variable {K : Crates} {A : AppState K} {svc : Svc} {agent : Agent}

/-- What an answer of the attester tells about it: the request named its own TEE, and the
evidence was built for the nonce in force. -/
theorem Svc.getEvidence_ok {connect : Attester.VerifierClient} {random : Bytes} {req : GetEvidenceRequest}
    {resp : GetEvidenceResponse} (answered : svc.getEvidence K agent connect random req = .ok resp) :
    TeeType.tryFrom req.teeType = some svc.cfg.teeType ∧ ∃ nonce generated evidence,
      Attester.effectiveNonce random req = .ok (nonce, generated) ∧
      Attester.buildEvidence K agent svc.cfg.teeType nonce svc.cfg.aaEndpoint = .ok evidence ∧
      match req.mode with
      | .passport => svc.fetchEar connect nonce evidence = .ok resp.ear
      | .backgroundCheck => resp.evidence = evidence ∧ resp.wasmComponent = svc.wasmBytes := by
  simp only [Svc.getEvidence, Wire.bind_eq_ok, Wire.mapError_eq_ok, Wire.okOr_eq_ok, Wire.ensure_eq_ok] at answered
  obtain ⟨tee, known, _, rfl, ⟨nonce, generated⟩, effective, evidence, built, rest⟩ := answered
  refine ⟨known, nonce, generated, evidence, effective, built, ?_⟩
  cases mode : req.mode with
  | passport =>
    simp only [mode, Wire.bind_eq_ok] at rest
    obtain ⟨ear, fetched, same⟩ := rest
    cases same
    exact fetched
  | backgroundCheck =>
    simp only [mode] at rest
    cases rest
    exact ⟨rfl, rfl⟩

/-- The attester and everyone it asks are honest: it answers as the service does, and the
verifier that it reaches has answered the calls of the history. -/
structure Faithfully (outside : Outside K) (history : List (Issue K)) (svc : Svc) (agent : Agent)
    (connect : Attester.VerifierClient) (random : Bytes) : Prop where
  attester : ∀ address req resp, outside.getEvidence address req = .ok resp →
    svc.getEvidence K agent connect random req = .ok resp
  connects : ∀ address verify req resp, connect address = .ok verify → verify req = .ok resp →
    ∃ issue ∈ history, issue.request = req ∧ issue.token = resp.ear

/-- With an honest attester, accepted claims come from one Verify call: about the TEE that
was asked for and the nonce of this very run, over evidence built for that nonce. -/
theorem accepted_from_attester {cli : Cli} {outside : Outside K} {history : List (Issue K)}
    {connect : Attester.VerifierClient} {random : Bytes} {claims : Value K.json.Float} (faithful : K.json.Faithful)
    (honest : outside.Honest A cli history) (served : Faithfully outside history svc agent connect random)
    (accepted : run cli outside = .ok claims) :
    ∃ tee, ∃ issue ∈ history, requested cli = .ok tee ∧ svc.cfg.teeType = tee ∧ issue.Told claims ∧
      issue.request.teeType = teeTypeNumber tee ∧ issue.request.nonce = runNonce cli outside random ∧
      issue.request.wasm = some (.wasmComponent svc.wasmBytes) ∧
      Attester.buildEvidence K agent tee (runNonce cli outside random) svc.cfg.aaEndpoint = .ok issue.request.evidence ∧
      claims.get "tee_type" = some (.string (teeTypeStr tee)) ∧
      claims.get "eat_nonce" = some (.string (K.encodeBase64Url (runNonce cli outside random))) := by
  simp only [run, Wire.bind_eq_ok, Wire.mapError_eq_ok, Wire.okOr_eq_ok] at accepted
  obtain ⟨attester, _, verifier, _, tee, asked, pubkey, path, key, read, answer, answered, ear, fetched, _, _, decoded,
    decodes, _, _, _, _, same⟩ := accepted
  cases same
  obtain ⟨known, nonce, generated, evidence, effective, built, handed⟩ :=
    Svc.getEvidence_ok (served.attester _ _ _ answered)
  rw [RelyingParty.tryFrom_teeTypeNumber] at known
  have configured : svc.cfg.teeType = tee := (Option.some.inj known).symm
  -- One issue of the history carries this run's request, and its token is the EAR in hand.
  have traced : nonce = runNonce cli outside random ∧ ∃ issue ∈ history, issue.token = ear ∧ issue.request =
      { teeType := teeTypeNumber tee, nonce, evidence, wasm := some (.wasmComponent svc.wasmBytes) } := by
    cases passport : cli.isPassport with
    | true =>
      -- The attester has made up the nonce and called the verifier.
      simp only [passport, if_true, Attester.effectiveNonce] at effective handed
      simp only [passport, Outside.fetchEar, if_true, Wire.bind_eq_ok] at fetched
      obtain ⟨_, _, same⟩ := fetched
      cases same
      cases effective
      simp only [Svc.fetchEar, Wire.bind_eq_ok, Wire.mapError_eq_ok, Wire.okOr_eq_ok] at handed
      obtain ⟨endpoint, _, verify, connected, resp, verified, same⟩ := handed
      obtain ⟨issue, issued, request, token⟩ := served.connects _ _ _ _ connected verified
      rw [configured] at request
      exact ⟨by simp only [runNonce, passport, if_true], issue, issued, token.trans (Except.ok.inj same), request⟩
    | false =>
      -- The relying party calls the verifier about the evidence for its own nonce.
      simp only [passport, Bool.false_eq_true, if_false, Attester.effectiveNonce] at effective handed
      simp only [passport, Outside.fetchEar, Bool.false_eq_true, if_false, Wire.bind_eq_ok, Wire.mapError_eq_ok] at fetched
      obtain ⟨resp, verified, same⟩ := fetched
      cases same
      obtain ⟨issue, issued, request, token⟩ := honest.answers _ _ _ verified
      rw [handed.1, handed.2] at request
      cases random : outside.random with
      | nil => simp [random] at effective
      | cons first rest =>
        simp only [random] at effective
        cases effective
        rw [random] at request
        exact ⟨by simp only [runNonce, passport, Bool.false_eq_true, if_false, random], issue, issued, token, request⟩
  obtain ⟨rfl, issue, issued, rfl, request⟩ := traced
  have told := honest.decodes issue issued key claims decodes
  have trusted := honest.issued issue issued
  have eatNonce := eatNonce_of_told faithful trusted told
  have named := teeType_of_told faithful trusted told (congrArg VerifyRequest.teeType request)
  rw [request] at eatNonce
  rw [configured] at built
  exact ⟨tee, issue, issued, asked, configured, told, by rw [request], by rw [request], by rw [request],
    by rw [request]; exact built, named, eatNonce⟩

deriving instance DecidableEq for Wasm, VerifyRequest

def servedRequest : VerifyRequest where
  teeType := 2
  nonce := [1]
  evidence := compactCrates.json.toVec (.object [
    ("cca_token_b64", .string (compactCrates.encodeBase64 measuredToken)),
    ("nonce", .string (compactCrates.encodeBase64Url [1]))])
  wasm := some (.wasmComponent [])

/-- A verifier that has answered one request. -/
def servedVerify (req : VerifyRequest) : Except String VerifyResponse :=
  if req = servedRequest then .ok { ear := urlSafeBase64 [1], wasmComponentId := "cca" } else .error "verifier"

def servedOutside (claims : Value Empty) : Outside compactCrates where
  Key := Unit
  readKey _ := .ok ()
  getEvidence _ req := (plainSvc.getEvidence compactCrates plainAgent (fun _ => .ok servedVerify) [1] req).mapError
    fun _ => "attester"
  verify _ := servedVerify
  writeEar _ _ := .ok ()
  decode _ token := if token = urlSafeBase64 [1] then .ok claims else .error "InvalidToken"
  random := [2]
  now := 60

theorem served_appraised : ∃ ear, (measuredState []).appraise measuredRegistered (referenceWorld compactCrates 0)
      servedRequest = .ok ear ∧ ear.trustVector.executables = 2 ∧ ear.submods.depth ≤ 111 := by
  have equipped : Equipped measuredRegistered compactCrates plainSvc .cca := ⟨rfl, by decide, "cca", .cca, rfl, rfl, rfl⟩
  obtain ⟨members, wrapped, appraised⟩ := @honest_appraised compactCrates (measuredState []) measuredRegistered
    (referenceWorld compactCrates 0) plainSvc plainAgent .cca Serde.compact_faithful Serde.compact_readsBack
    compact_decodes (by decide) equipped [1] measuredToken (by decide) (measured_answers (measuredState []).sign)
  cases wrapped
  exact appraised

/-- The one call of the verifier, and the claims that the relying party reads of its answer. -/
theorem served_issue : ∃ (issue : Issue compactCrates) (claims : Value Empty), issue.Honest (measuredState []) ∧
    issue.request = servedRequest ∧ issue.token = urlSafeBase64 [1] ∧ issue.world.issuedAt = 0 ∧ issue.Told claims ∧
    checkAffirming (K := compactCrates) claims = .ok () := by
  obtain ⟨ear, appraised, affirming, deep⟩ := served_appraised
  obtain ⟨claims, told, affirms, -⟩ := told_claims Serde.compact_faithful Serde.compact_readsBack Serde.compact_nested
    deep affirming
  have clock : (0 : Int) ≤ 0 ∧ (0 : Int) < 2 ^ 63 := by decide
  refine ⟨⟨_, _, servedRequest, ear, urlSafeBase64 [1]⟩, claims, ⟨appraised, ?_, clock⟩, rfl, rfl, rfl, told, affirms⟩
  obtain ⟨_, _, _, _, issued⟩ := AppState.appraise_ok appraised
  exact congrArg Except.ok issued.eat_nonce

theorem served_accepted {issue : Issue compactCrates} {claims : Value compactCrates.json.Float}
    (honest : issue.Honest (measuredState [])) (told : issue.Told claims) (issued : issue.world.issuedAt = 0)
    (affirms : checkAffirming claims = .ok ()) : run plainCli (servedOutside claims) = .ok claims := by
  have passport : plainCli.isPassport = true := by decide
  have built := @Attester.buildEvidence_answers compactCrates plainAgent .cca "http://aa" [1] measuredToken _ (by decide)
    (by decide) (by rw [Attester.Answers]; rfl) rfl
  have handed := @getEvidence_passport compactCrates plainSvc plainAgent .cca (fun _ => .ok servedVerify) [1] _ "verifier"
    servedVerify ⟨urlSafeBase64 [1], "cca"⟩ rfl built rfl rfl (if_pos rfl)
  have answered : (servedOutside claims).getEvidence "attester"
      { teeType := teeTypeNumber .cca, nonce := if plainCli.isPassport then [] else (servedOutside claims).random
        mode := if plainCli.isPassport then .passport else .backgroundCheck } =
      .ok { evidence := [], wasmComponent := [], generatedNonce := [1], ear := urlSafeBase64 [1] } := by
    rw [if_pos passport, if_pos passport]
    simp only [servedOutside, handed, Except.mapError]
  have fetched : (servedOutside claims).fetchEar plainCli.isPassport "verifier" .cca
      { evidence := [], wasmComponent := [], generatedNonce := [1], ear := urlSafeBase64 [1] } =
      .ok (urlSafeBase64 [1]) := by
    have visible : urlSafeBase64 [1] ≠ "" := by decide
    simp only [Outside.fetchEar, passport, if_true, visible, ensure, ne_eq, not_false_eq_true, bind, Except.bind]
  have fresh : checkFresh plainCli.isPassport (servedOutside claims).random (servedOutside claims).now claims =
      .ok () := by
    have iat := told.iat Serde.compact_faithful honest
    have clock : (servedOutside claims).now = 60 := rfl
    simp only [passport, checkFresh, if_true, iat, issued, clock, Option.getD_some, Wire.ensure_eq_ok]
    decide
  have decoded : (servedOutside claims).decode () (urlSafeBase64 [1]) = .ok claims := by
    simp only [servedOutside, if_true]
  exact @run_accepts compactCrates .cca plainCli (servedOutside claims) "attester" "verifier" "pubkey" _ () _ claims rfl
    rfl rfl rfl rfl answered fetched rfl decoded fresh affirms

theorem served_honest {issue : Issue compactCrates} {claims : Value Empty} (honest : issue.Honest (measuredState []))
    (request : issue.request = servedRequest) (token : issue.token = urlSafeBase64 [1]) (told : issue.Told claims) :
    (servedOutside claims).Honest (measuredState []) plainCli [issue] where
  issued held := fun listed => List.mem_singleton.mp listed ▸ honest
  answers _ req resp answered := by
    refine ⟨issue, List.mem_singleton.mpr rfl, ?_⟩
    simp only [servedOutside, servedVerify] at answered
    split at answered
    · cases answered
      exact ⟨request.trans (Eq.symm ‹_›), token⟩
    · cases answered
  unforgeable _ _ presented presentedClaims _ _ decodes := by
    refine ⟨issue, List.mem_singleton.mpr rfl, ?_⟩
    by_cases own : presented = urlSafeBase64 [1]
    · simp only [servedOutside, own, if_true] at decodes
      exact Except.ok.inj decodes ▸ told
    · simp only [servedOutside, own, if_false] at decodes
      cases decodes
  decodes held listed _ presentedClaims decodes := by
    obtain rfl := List.mem_singleton.mp listed
    simp only [servedOutside, token, if_true] at decodes
    exact Except.ok.inj decodes ▸ told

theorem accepted_from_attester_passport :
    ∃ (issue : Issue compactCrates) (claims : Value Empty), issue.Told claims ∧ issue.request = servedRequest ∧
      run plainCli (servedOutside claims) = .ok claims ∧
      claims.get "tee_type" = some (.string "cca") ∧
      claims.get "eat_nonce" = some (.string (urlSafeBase64 [1])) := by
  obtain ⟨issue, claims, honest, request, token, issued, told, affirms⟩ := served_issue
  have trusted := served_honest honest request token told
  have served : Faithfully (servedOutside claims) [issue] plainSvc plainAgent (fun _ => .ok servedVerify) [1] := {
    attester := fun _ req resp answered => (Wire.mapError_eq_ok.mp answered)
    connects := fun _ verify req resp connected answered => by
      cases connected
      exact trusted.answers "" req resp answered }
  have accepted := served_accepted honest told issued affirms
  obtain ⟨tee, own, listed, asked, _, _, _, _, _, _, named, fresh⟩ :=
    accepted_from_attester Serde.compact_faithful trusted served accepted
  cases asked
  exact ⟨issue, claims, told, request, accepted, named, fresh⟩

end Provenance

end UnifiedAttestation.Protocol
