import UnifiedAttestation.Grpc.Reference
import UnifiedAttestation.Json.Reader

/-! The policy for CCA evidence: trusted measurements and trusted subjects.

The policy reads two claims. The host puts the measurement into the evidence and the
appraiser passes it on; nobody puts a subject there.
-/

set_option autoImplicit false

namespace UnifiedAttestation.Grpc

open Wire (Bytes okOr ensure)
open Json (Value Serde depthMembers depthItems)

section Policy
variable {K : Crates}

/-- Claims whose measurement and subject are in the lists that are not empty. -/
structure CcaPolicy.Admits (policy : CcaPolicy) (claims : Value K.json.Float) : Prop where
  rim : policy.trustedRimHex ≠ [] → ∃ rim, claimText claims "cca_realm_initial_measurement" = some rim ∧
    ∃ entry ∈ policy.trustedRimHex, eqIgnoreAsciiCase entry rim = true
  subject : policy.trustedSubjects ≠ [] → ∃ subject ∈ policy.trustedSubjects, claimText claims "subject" = some subject

theorem CcaPolicy.admits_iff {policy : CcaPolicy} {claims : Value K.json.Float} :
    policy.Admits claims ↔
      (policy.trustedRimHex ≠ [] → ∃ rim, claimText claims "cca_realm_initial_measurement" = some rim ∧
        policy.trustedRimHex.any (fun entry => eqIgnoreAsciiCase entry rim) = true) ∧
      (policy.trustedSubjects ≠ [] → ∃ subject, claimText claims "subject" = some subject ∧
        subject ∈ policy.trustedSubjects) := by
  simp only [List.any_eq_true]
  constructor
  · rintro ⟨rim, subject⟩
    exact ⟨rim, fun listed => (subject listed).imp fun _ held => held.symm⟩
  · rintro ⟨rim, subject⟩
    exact ⟨rim, fun listed => (subject listed).imp fun _ held => held.symm⟩

theorem enforceCcaPolicy_eq_ok {policy : CcaPolicy} {claims : Value K.json.Float} :
    enforceCcaPolicy policy claims = .ok () ↔ policy.Admits claims := by
  rw [CcaPolicy.admits_iff]
  by_cases rims : policy.trustedRimHex = []
  · by_cases subjects : policy.trustedSubjects = []
    · simp [enforceCcaPolicy, rims, subjects, pure, Except.pure]
    · simp [enforceCcaPolicy, rims, subjects, Wire.bind_eq_ok, Wire.okOr_eq_ok, Wire.ensure_eq_ok]
  · by_cases subjects : policy.trustedSubjects = []
    · simp [enforceCcaPolicy, rims, subjects, Wire.bind_eq_ok, Wire.okOr_eq_ok, Wire.ensure_eq_ok, pure, Except.pure]
    · simp [enforceCcaPolicy, rims, subjects, Wire.bind_eq_ok, Wire.okOr_eq_ok, Wire.ensure_eq_ok, ← exists_and_right,
        and_assoc]

/-- Every EAR for CCA evidence is given for claims that the policy admits. -/
def AppState.CcaSound (A : AppState K) (R : Registered) (W : World K) : Prop :=
  ∀ req tee response, TeeType.tryFrom req.teeType = some tee → tee.family = .cca → A.verify R W req = .ok response →
    ∃ ear, A.appraise R W req = .ok ear ∧ A.sign ear = .ok response.ear ∧ A.ccaPolicy.Admits ear.submods

/-- The host accepts the token for some nonce, with this measurement up to letter case. -/
def CcaVerifier.Vouches (verifier : CcaVerifier K) (rim : String) (token : Bytes) : Prop :=
  ∃ nonce result claimed, verifier.verify token (resize nonce 64) = .ok result ∧
    result.realmInitialMeasurement = some claimed ∧ eqIgnoreAsciiCase rim claimed = true

/-- Some request for CCA evidence with this token is answered with an EAR. -/
def AppState.Accepts (A : AppState K) (R : Registered) (W : World K) (token : Bytes) : Prop :=
  ∃ req tee response, TeeType.tryFrom req.teeType = some tee ∧ tee.family = .cca ∧
    extractB64Field (K := K) req.evidence "cca_token_b64" = .ok token ∧ A.verify R W req = .ok response

/-- For every trusted measurement that some token has, such a token is accepted. -/
def AppState.CcaSatisfiable (A : AppState K) (R : Registered) (W : World K) (verifier : CcaVerifier K) : Prop :=
  ∀ rim ∈ A.ccaPolicy.trustedRimHex, (∃ token, verifier.Vouches rim token) →
    ∃ token, verifier.Vouches rim token ∧ A.Accepts R W token

/-- An appraiser for CCA evidence is registered. -/
def HasCca (K : Crates) (R : Registered) : Prop :=
  ∃ id appraiser tee, R.compiled id = some (Appraiser.component K appraiser) ∧ appraiser.teeType = teeTypeStr tee ∧
    tee.family = .cca

theorem AppState.cca_sound (A : AppState K) (R : Registered) (W : World K) : A.CcaSound R W := by
  intro req tee response named family accepted
  obtain ⟨ear, appraises, signs⟩ := Wire.bind_eq_ok.mp accepted
  obtain ⟨sealed, signed, same⟩ := Wire.bind_eq_ok.mp signs
  cases same
  refine ⟨ear, appraises, Wire.mapError_eq_ok.mp signed, ?_⟩
  obtain ⟨_, _, _, _, appraised⟩ := AppState.appraise_ok appraises
  cases named.symm.trans appraised.tee_type
  have enforced := appraised.policy
  rw [family] at enforced
  exact enforceCcaPolicy_eq_ok.mp (Wire.mapError_eq_ok.mp enforced)

/-- No shipped appraiser for CCA reports a subject. -/
theorem Appraised.no_subject {A : AppState K} {R : Registered} {W : World K} {req : VerifyRequest} {ear : EarClaims K}
    {tee : TeeType} {componentId : String} {evidence : Bytes} {lifecycle : Option String}
    (faithful : K.json.Faithful) (shipped : Shipped K R) (family : tee.family = .cca)
    (appraised : Appraised A R W req ear tee componentId evidence lifecycle) :
    ear.submods.get "subject" = none := by
  obtain ⟨quiet, same⟩ := appraised.shipped faithful shipped
  rw [family] at quiet same
  obtain ⟨value, encoded, nonce, decoded, _, shape, _⟩ := passingClaims_passed quiet
  have claims : Family.cca.claims K (teeTypeStr tee) evidence (some req.nonce) (A.expectedInit .cca) = _ := shape
  rw [same, claims, Value.get, passthrough_get, if_neg (by decide)]
  rfl

/-- A list of trusted subjects that is not empty refuses all CCA evidence. -/
theorem AppState.refuses_subjects {A : AppState K} {R : Registered} {W : World K} {token : Bytes}
    (faithful : K.json.Faithful) (shipped : Shipped K R) (listed : A.ccaPolicy.trustedSubjects ≠ []) :
    ¬ A.Accepts R W token := by
  rintro ⟨req, tee, response, named, family, _, accepted⟩
  obtain ⟨ear, appraises, _, admits⟩ := A.cca_sound R W req tee response named family accepted
  obtain ⟨subject, _, claimed⟩ := admits.subject listed
  obtain ⟨_, _, _, _, appraised⟩ := AppState.appraise_ok appraises
  cases named.symm.trans appraised.tee_type
  rw [claimText, appraised.no_subject faithful shipped family] at claimed
  cases claimed

end Policy

section Accepted
variable {K : Crates}

/-- The evidence that an attester makes of a token and a nonce. -/
def ccaMembers (K : Crates) (token nonce : Bytes) : Json.Map K.json.Float :=
  [("cca_token_b64", .string (K.encodeBase64 token)), ("nonce", .string (K.encodeBase64Url nonce))]

def ccaRequest (K : Crates) (code : Int) (id : String) (token nonce : Bytes) : VerifyRequest where
  teeType := code
  nonce
  evidence := K.json.toVec (.object (ccaMembers K token nonce))
  wasm := some (.wasmComponentId id)

theorem resize_of_length {bytes : Bytes} {size : Nat} (sized : bytes.length = size) : resize bytes size = bytes := by
  subst sized
  simp [resize]

theorem TeeType.exists_code (tee : TeeType) : ∃ code, TeeType.tryFrom code = some tee := by
  cases tee
  exacts [⟨0, rfl⟩, ⟨1, rfl⟩, ⟨2, rfl⟩, ⟨3, rfl⟩, ⟨4, rfl⟩, ⟨5, rfl⟩, ⟨6, rfl⟩, ⟨7, rfl⟩, ⟨8, rfl⟩, ⟨9, rfl⟩, ⟨10, rfl⟩,
    ⟨11, rfl⟩]

theorem injectCcaClaims_rim {obj : Json.Map K.json.Float} {result : CcaVerificationResult K} {claimed : String}
    (reported : result.realmInitialMeasurement = some claimed) :
    Json.Map.get (injectCcaClaims K obj result) "cca_realm_initial_measurement" = some (.string claimed) := by
  simp [injectCcaClaims, Json.Map.get_insertSome, reported]

theorem injectCcaClaims_other {obj : Json.Map K.json.Float} {result : CcaVerificationResult K} {key : String}
    (other : key ∉ ccaKeys) : Json.Map.get (injectCcaClaims K obj result) key = Json.Map.get obj key := by
  simp only [ccaKeys, List.mem_cons, List.not_mem_nil, or_false, not_or] at other
  simp only [injectCcaClaims, Json.Map.get_insertSome, Ne.symm other.1, Ne.symm other.2.1, Ne.symm other.2.2.1,
    Ne.symm other.2.2.2.1, Ne.symm other.2.2.2.2.1, Ne.symm other.2.2.2.2.2, if_false]

theorem injectCcaClaims_depth {obj : Json.Map K.json.Float} {e : K.CcaEvidence} (shallow : depthMembers obj ≤ 2) :
    depthMembers (injectCcaClaims K obj (ccaResult K e)) ≤ 2 := by
  have text : ∀ (member : Option String) (found : Value K.json.Float), member.map .string = some found →
      found.depth ≤ 2 := by
    intro member found held
    obtain ⟨said, _, rfl⟩ := Option.map_eq_some_iff.mp held
    exact Nat.zero_le _
  have components : ∀ found : Value K.json.Float, (ccaResult K e).ccaPlatformSwComponents.map .array = some found →
      found.depth ≤ 2 := by
    intro found held
    obtain ⟨items, made, rfl⟩ := Option.map_eq_some_iff.mp held
    have each : items = (K.swComponents e).map (swComponentJson K) := by
      simp only [ccaResult, Option.ite_none_left_eq_some, Option.some.injEq] at made
      exact made.2.symm
    refine Nat.succ_le_succ (Json.depthItems_le fun item listed => ?_)
    rw [each] at listed
    obtain ⟨component, _, rfl⟩ := List.mem_map.mp listed
    have flat : ∀ said : Option String, (optionalText K said).depth = 0 := by
      rintro (_ | said)
      · rfl
      · rfl
    simp [swComponentJson, Value.depth, depthMembers, flat]
  apply Json.depthMembers_insertSome _ components
  apply Json.depthMembers_insertSome _ (text _)
  apply Json.depthMembers_insertSome _ (text _)
  apply Json.depthMembers_insertSome _ (text _)
  apply Json.depthMembers_insertSome _ (text _)
  exact Json.depthMembers_insertSome shallow (text _)

theorem passthrough_depth {members claims : Json.Map K.json.Float} {keys : List String} {bound : Nat}
    (passed : depthMembers members ≤ bound) (before : depthMembers claims ≤ bound) :
    depthMembers (keys.foldl (passthrough K (.object members)) claims) ≤ bound := by
  induction keys generalizing claims with
  | nil => exact before
  | cons key keys ih =>
    apply ih
    apply Json.depthMembers_insertSome before
    intro found held
    exact Nat.le_trans (Json.depth_of_get held) passed

/-- The claims of an appraiser that is content, before it passes members on. -/
def passedMembers (K : Crates) (teeType size : String) (length : Nat) : Json.Map K.json.Float := [
  ("tee_type", .string teeType),
  ("verification", .string "passed"),
  ("nonce_bound", .bool true),
  (size, .int length)]

/-- What the appraiser answers to evidence with a token and the expected nonce. -/
theorem passingClaims_accepts {teeType field label size encoded : String} {keys : List String} {evidence decoded : Bytes}
    {nonce : Bytes} {members : Json.Map K.json.Float} (read : K.json.fromSlice evidence = .ok (.object members))
    (held : Json.Map.get members field = some (.string encoded)) (decodes : K.decodeBase64 encoded = .ok decoded)
    (fresh : Json.Map.get members "nonce" = some (.string (K.encodeBase64Url nonce))) :
    passingClaims K teeType field label size keys evidence (some nonce) =
      .object (keys.foldl (passthrough K (.object members)) (passedMembers K teeType size decoded.length)) := by
  have parsed : K.json.fromSliceAs (readEncodedEvidence field) evidence = .ok (encoded, K.encodeBase64Url nonce) :=
    Serde.fromSliceAs_eq_ok.mpr ⟨_, read, by simp [readEncodedEvidence, Value.fields, held, fresh, Value.asStr]⟩
  simp only [passingClaims, parsed, decodes, read, Value.orNull, nonceOk, verificationText, beq_self_eq_true, if_true,
    passedMembers]

/-- A request about a token that the host accepts, with the host's evidence for the component. -/
theorem AppState.exists_request {A : AppState K} {verifier : CcaVerifier K} {W : World K} {token nonce : Bytes}
    {e : K.CcaEvidence} {tee : TeeType} {id : String} (faithful : K.json.Faithful) (readsBack : K.json.ReadsBack)
    (decodes : ∀ bytes, K.decodeBase64 (K.encodeBase64 bytes) = .ok bytes) (held : A.ccaVerifier = some verifier)
    (family : tee.family = .cca) (sized : nonce.length = 64)
    (verified : verifier.verify token nonce = .ok (ccaResult K e)) :
    ∃ req evidence members, TeeType.tryFrom req.teeType = some tee ∧ req.nonce = nonce ∧
      req.wasm = some (.wasmComponentId id) ∧ extractB64Field (K := K) req.evidence "cca_token_b64" = .ok token ∧
      A.hostEvidence W req tee.family = .ok (evidence, (ccaResult K e).ccaPlatformLifecycle) ∧
      K.json.fromSlice evidence = .ok (.object members) ∧ depthMembers members ≤ 2 ∧
      Json.Map.get members "cca_token_b64" = some (.string (K.encodeBase64 token)) ∧
      Json.Map.get members "nonce" = some (.string (K.encodeBase64Url nonce)) ∧
      ∀ claimed, (ccaResult K e).realmInitialMeasurement = some claimed →
        Json.Map.get members "cca_realm_initial_measurement" = some (.string claimed) := by
  obtain ⟨code, named⟩ := tee.exists_code
  -- The evidence is read, the claims of the host are put in, and it is printed and read again.
  obtain ⟨kept, read, each, depth⟩ := faithful.readBack readsBack
    (show depthMembers (ccaMembers K token nonce) < 127 by simp [ccaMembers, depthMembers, Value.depth])
  have injected : depthMembers (injectCcaClaims K kept (ccaResult K e)) ≤ 2 :=
    injectCcaClaims_depth (Nat.le_trans depth (by simp [ccaMembers, depthMembers, Value.depth]))
  obtain ⟨members, readAgain, eachAgain, depthAgain⟩ := faithful.readBack readsBack
    (Nat.lt_of_le_of_lt injected (by decide))
  have carried : Json.Map.get kept "cca_token_b64" = some (.string (K.encodeBase64 token)) := by
    rw [each]
    simp [ccaMembers, faithful.again_string]
  have fresh : Json.Map.get kept "nonce" = some (.string (K.encodeBase64Url nonce)) := by
    rw [each]
    simp [ccaMembers, faithful.again_string]
  have extracted : extractB64Field (K := K) (K.json.toVec (.object (ccaMembers K token nonce))) "cca_token_b64" =
      .ok token := by
    simp only [extractB64Field, Wire.bind_eq_ok, Wire.mapError_eq_ok, Wire.okOr_eq_ok]
    exact ⟨_, read, _, by simp [Value.get, carried, Value.asStr], decodes token⟩
  refine ⟨ccaRequest K code id token nonce, K.json.toVec (.object (injectCcaClaims K kept (ccaResult K e))), members,
    named, rfl, rfl, extracted, ?_, readAgain, Nat.le_trans depthAgain injected, ?_, ?_, ?_⟩
  · rw [family]
    simp only [AppState.hostEvidence, AppState.ccaEvidence, ccaRequest, held, parseEvidence, extracted, read,
      resize_of_length sized, verified, rootObject, Value.asObject, okOr, bind, Except.bind, Except.mapError]
  · rw [eachAgain, injectCcaClaims_other (by decide), carried, Option.map_some, faithful.again_string]
  · rw [eachAgain, injectCcaClaims_other (by decide), fresh, Option.map_some, faithful.again_string]
  · intro claimed reported
    rw [eachAgain, injectCcaClaims_rim reported, Option.map_some, faithful.again_string]

theorem evaluate_passes {compiled : String → Option Component} {id raw : String} {component : Component}
    {evidence : Bytes} {expected init : Option Bytes} {claims : Value K.json.Float} (held : compiled id = some component)
    (ran : component evidence expected init = .ok raw) (read : K.json.fromStr raw = .ok claims)
    (clean : claims.get "error" = none) (verdict : claimText claims "verification" = some "passed") :
    evaluate (K := K) compiled id evidence expected init = .ok { componentId := id, claims } := by
  simp only [evaluate, held, ran, read, passedClaims, clean, verdict, okOr, ensure, bind, Except.bind, Except.mapError,
    Option.getD_some, if_true]

/-- What an appraiser for CCA says of evidence that shows the nonce. -/
theorem evaluate_cca {compiled : String → Option Component} {id : String} {appraiser : Appraiser} {tee : TeeType}
    {evidence token nonce : Bytes} {init : Option Bytes} {members : Json.Map K.json.Float} (faithful : K.json.Faithful)
    (readsBack : K.json.ReadsBack) (decodes : ∀ bytes, K.decodeBase64 (K.encodeBase64 bytes) = .ok bytes)
    (held : compiled id = some (appraiser.component K)) (kind : appraiser.teeType = teeTypeStr tee)
    (family : tee.family = .cca) (read : K.json.fromSlice evidence = .ok (.object members))
    (shallow : depthMembers members ≤ 2)
    (carried : Json.Map.get members "cca_token_b64" = some (.string (K.encodeBase64 token)))
    (fresh : Json.Map.get members "nonce" = some (.string (K.encodeBase64Url nonce))) :
    ∃ claims, evaluate (K := K) compiled id evidence (some nonce) init = .ok { componentId := id, claims } ∧
      claimText claims "tee_type" = some (teeTypeStr tee) ∧
      ∀ rim, Json.Map.get members "cca_realm_initial_measurement" = some (.string rim) →
        claimText claims "cca_realm_initial_measurement" = some rim := by
  have shape : appraiser.claims K evidence (some nonce) init =
      .object (ccaKeys.foldl (passthrough K (.object members))
        (passedMembers K (teeTypeStr tee) "token_size" token.length)) := by
    rw [Appraiser.claims_eq kind, family]
    exact passingClaims_accepts read carried (decodes token) fresh
  have flat : depthMembers (passedMembers K (teeTypeStr tee) "token_size" token.length) ≤ 2 := by
    simp [passedMembers, depthMembers, Value.depth]
  have passed : depthMembers (ccaKeys.foldl (passthrough K (.object members))
      (passedMembers K (teeTypeStr tee) "token_size" token.length)) ≤ 2 := passthrough_depth shallow flat
  obtain ⟨kept, readAgain, each, _⟩ := faithful.readBack readsBack (Nat.lt_of_le_of_lt passed (by decide))
  -- What is passed on has other names than what the appraiser says itself.
  have own : ∀ key, key ∉ ccaKeys → Json.Map.get kept key =
      (Json.Map.get (passedMembers K (teeTypeStr tee) "token_size" token.length) key).map K.json.again := by
    intro key other
    rw [each, passthrough_get, if_neg other]
  have clean : (Value.object kept).get "error" = none := own "error" (by decide)
  have verdict : claimText (K := K) (.object kept) "verification" = some "passed" :=
    claimText_reread faithful (own "verification" (by decide)) rfl
  have sameTee : claimText (K := K) (.object kept) "tee_type" = some (teeTypeStr tee) :=
    claimText_reread faithful (own "tee_type" (by decide)) rfl
  refine ⟨.object kept, evaluate_passes held (congrArg (Except.ok ∘ K.json.print) shape) readAgain clean verdict,
    sameTee, fun rim there => claimText_reread faithful (each "cca_realm_initial_measurement") ?_⟩
  rw [passthrough_get, if_pos (by decide), Value.get, there, Option.some_or]

/-- Without trusted subjects, a token for a trusted measurement is accepted. -/
theorem AppState.accepts_token {A : AppState K} {R : Registered} {W : World K} {verifier : CcaVerifier K} {rim : String}
    {token : Bytes} (faithful : K.json.Faithful) (readsBack : K.json.ReadsBack)
    (decodes : ∀ bytes, K.decodeBase64 (K.encodeBase64 bytes) = .ok bytes)
    (signs : ∀ claims, ∃ ear, A.sign claims = .ok ear) (held : A.ccaVerifier = some verifier) (installed : HasCca K R)
    (listed : rim ∈ A.ccaPolicy.trustedRimHex) (unnamed : A.ccaPolicy.trustedSubjects = [])
    (vouched : verifier.Vouches rim token) : A.Accepts R W token := by
  obtain ⟨nonce, result, claimed, verified, reported, same⟩ := vouched
  obtain ⟨id, appraiser, tee, compiled, kind, family⟩ := installed
  obtain ⟨e, _, _, _, rfl⟩ := CcaVerifier.verify_ok verified
  -- The request asks with the nonce that the host accepts the token for, filled up to 64 bytes.
  obtain ⟨req, evidence, members, named, asked, chosen, extracted, host, read, shallow, carried, fresh, measured⟩ :=
    @AppState.exists_request K A verifier W token (resize nonce 64) e tee id faithful readsBack decodes held family
      (resize_length nonce 64) verified
  obtain ⟨claims, evaluated, sameTee, rimClaim⟩ := @evaluate_cca K R.compiled id appraiser tee evidence token
    (resize nonce 64) (A.expectedInit tee.family) members faithful readsBack decodes compiled kind family read shallow
    carried fresh
  have admits : A.ccaPolicy.Admits claims := {
    rim := fun _ => ⟨claimed, rimClaim claimed (measured claimed reported), rim, listed, same⟩
    subject := fun trusted => absurd unnamed trusted }
  have enforced : A.enforcePolicy claims tee.family = .ok () := by
    rw [family]
    exact Wire.mapError_eq_ok.mpr (enforceCcaPolicy_eq_ok.mpr admits)
  have filled : resize nonce 64 ≠ [] := List.ne_nil_of_length_pos (by rw [resize_length]; decide)
  have specified : tee ≠ .unspecified := by
    rintro rfl
    cases family
  have component : componentIdOf R req = .ok id := by
    rw [componentIdOf, chosen]
  have appraises : ∃ ear, A.appraise R W req = .ok ear := by
    simp only [appraise, named, specified, asked, filled, component, host, evaluated, sameTee, enforced, okOr, ensure,
      bind, Except.bind, Except.mapError, Option.getD_some, if_true, ne_eq, not_false_eq_true, Except.ok.injEq,
      exists_eq']
  obtain ⟨ear, appraises⟩ := appraises
  obtain ⟨sealed, signed⟩ := signs ear
  refine ⟨req, tee, { ear := sealed, wasmComponentId := ear.componentId }, named, family, extracted, ?_⟩
  simp only [verify, appraises, signed, bind, Except.bind, Except.mapError]

/-- With the shipped appraisers the policy for CCA is sound, and it can be satisfied exactly
when it lists no subject or no measurement that a token has. -/
theorem cca_policy_satisfiable_iff {A : AppState K} {R : Registered} {W : World K} {verifier : CcaVerifier K}
    (faithful : K.json.Faithful) (readsBack : K.json.ReadsBack)
    (decodes : ∀ bytes, K.decodeBase64 (K.encodeBase64 bytes) = .ok bytes)
    (signs : ∀ claims, ∃ ear, A.sign claims = .ok ear) (held : A.ccaVerifier = some verifier) (installed : HasCca K R)
    (shipped : Shipped K R) :
    A.CcaSound R W ∧ A.CcaSatisfiable R W verifier ↔
      A.ccaPolicy.trustedSubjects = [] ∨ ∀ rim ∈ A.ccaPolicy.trustedRimHex, ∀ token, ¬ verifier.Vouches rim token := by
  constructor
  · rintro ⟨_, satisfiable⟩
    by_cases unnamed : A.ccaPolicy.trustedSubjects = []
    · exact .inl unnamed
    · refine .inr fun rim listed token vouched => ?_
      obtain ⟨_, _, accepts⟩ := satisfiable rim listed ⟨token, vouched⟩
      exact AppState.refuses_subjects faithful shipped unnamed accepts
  · rintro (unnamed | unvouched)
    · refine ⟨A.cca_sound R W, fun rim listed ⟨token, vouched⟩ => ⟨token, vouched, ?_⟩⟩
      exact AppState.accepts_token faithful readsBack decodes signs held installed listed unnamed vouched
    · exact ⟨A.cca_sound R W, fun rim listed ⟨token, vouched⟩ => absurd vouched (unvouched rim listed token)⟩

end Accepted

section Subjects

def compactCrates : Crates := { referenceCrates [] with json := Serde.compact }

def compactVerifier : CcaVerifier compactCrates where
  tas := ()
  rvs := ()

/-- A policy with one measurement, whatever its subjects. -/
def measuredState (trustedSubjects : List String) : AppState compactCrates :=
  { referenceState compactCrates (some compactVerifier) none with
    ccaPolicy := { trustedSubjects, trustedRimHex := ["AB"] } }

def measuredToken : Bytes := resize [1] 64 ++ [0xab]

def measuredRegistered : Registered := referenceRegistered compactCrates .cca

theorem compact_decodes (bytes : Bytes) : compactCrates.decodeBase64 (compactCrates.encodeBase64 bytes) = .ok bytes := by
  have decoder : compactCrates.decodeBase64 = decodeStandardBase64 := rfl
  have encoder : compactCrates.encodeBase64 = standardBase64 := rfl
  rw [decoder, encoder]
  exact decodeStandardBase64_encode bytes

theorem measured_vouched : compactVerifier.Vouches "AB" measuredToken :=
  ⟨[1], ccaResult compactCrates measuredToken, "ab", rfl, by decide, by decide⟩

/-- A trusted subject next to a trusted measurement leaves no token accepted. -/
theorem subject_unsatisfiable :
    compactVerifier.Vouches "AB" measuredToken ∧
      ¬ ((measuredState ["device"]).CcaSound measuredRegistered (referenceWorld compactCrates 0) ∧
        (measuredState ["device"]).CcaSatisfiable measuredRegistered (referenceWorld compactCrates 0) compactVerifier) := by
  refine ⟨measured_vouched, fun ⟨_, satisfiable⟩ => ?_⟩
  obtain ⟨_, _, accepts⟩ := satisfiable "AB" List.mem_cons_self ⟨measuredToken, measured_vouched⟩
  exact AppState.refuses_subjects Serde.compact_faithful (referenceRegistered_shipped compactCrates .cca)
    (List.cons_ne_nil _ _) accepts

theorem cca_policy_satisfiable_unnamed :
    (measuredState []).CcaSound measuredRegistered (referenceWorld compactCrates 0) ∧
      (measuredState []).CcaSatisfiable measuredRegistered (referenceWorld compactCrates 0) compactVerifier := by
  have signs : ∀ claims, ∃ ear, (measuredState []).sign claims = .ok ear := fun _ => ⟨_, rfl⟩
  have installed : HasCca compactCrates measuredRegistered := ⟨"cca", .cca, .cca, rfl, rfl, rfl⟩
  have satisfiable := @cca_policy_satisfiable_iff compactCrates (measuredState []) measuredRegistered
    (referenceWorld compactCrates 0) compactVerifier Serde.compact_faithful Serde.compact_readsBack compact_decodes
    signs rfl installed (referenceRegistered_shipped compactCrates .cca)
  exact satisfiable.mpr (.inl rfl)

end Subjects

end UnifiedAttestation.Grpc
