import UnifiedAttestation.Grpc.CcaPolicy
import UnifiedAttestation.Protocol.Shapes

/-! What the verifier asks of collected evidence.

It is stated about the bytes that the api-server-rest answers. The attester's wrapping,
the host, the appraiser and the policy then let the evidence through, whatever its family.
-/

set_option autoImplicit false

namespace UnifiedAttestation.Protocol

open Wire (Bytes okOr ensure)
open Json (Value Serde depthMembers)
open Grpc
open Attester (Agent envelope buildMockPart)
open RelyingParty (teeTypeNumber)

section Vouching
variable {K : Crates}

/-- A quote that verifies now, about the nonce, with everything the policy lists. -/
structure TdxVouched (A : AppState K) (W : World K) (nonce quote : Bytes) : Prop where
  clock : 0 ≤ W.injectedAt ∧ W.injectedAt < 2 ^ 64
  verified : ∃ collateral printed read report td, W.getCollateral A.tdxPolicy.pccsUrl quote = .ok collateral ∧
    K.printCollateral collateral = .ok printed ∧ K.readCollateral printed = .ok read ∧
    K.verifyQuote quote read W.injectedAt.toNat = .ok report ∧ K.parseQuote quote = .ok (some td) ∧
    reportDataMatches td.reportData nonce = true ∧ (A.expectedInit .tdx).all (initDataMatches td.mrConfigId) = true ∧
    report.status = "UpToDate" ∧ (A.tdxPolicy.acceptTcbStatus ≠ [] → "UpToDate" ∈ A.tdxPolicy.acceptTcbStatus) ∧
    ∀ pair ∈ [(A.tdxPolicy.trustedMrTdHex, td.mrTd), (A.tdxPolicy.trustedMrSeamHex, td.mrSeam),
      (A.tdxPolicy.trustedMrConfigIdHex, td.mrConfigId)],
      pair.1 ≠ [] → pair.1.any (fun entry => eqIgnoreAsciiCase entry (hexEncode pair.2)) = true

/-- What the verifier asks of the bytes that were collected for a nonce. -/
def Vouched (A : AppState K) (W : World K) (nonce bytes : Bytes) : Family → Prop
  | .mock => True
  | .cca => A.ccaPolicy.trustedSubjects = [] ∧
    match A.ccaVerifier with
    | none => A.ccaPolicy.trustedRimHex = []
    | some verifier => ∃ result, verifier.verify bytes (resize nonce 64) = .ok result ∧
      (A.ccaPolicy.trustedRimHex ≠ [] → ∃ rim, result.realmInitialMeasurement = some rim ∧
        ∃ entry ∈ A.ccaPolicy.trustedRimHex, eqIgnoreAsciiCase entry rim = true)
  | .csv => ∀ policy, A.csvVerifier = some policy → ∃ result, policy.verify W bytes nonce = .ok result
  | .itrustee => ∃ members, K.json.fromSlice bytes = .ok (.object members) ∧ depthMembers members ≤ 100 ∧
    ItrusteeShaped members
  | .virtcca => ∃ members, K.json.fromSlice bytes = .ok (.object members) ∧ depthMembers members ≤ 100 ∧
    VirtccaShaped members
  | .tdx => TdxVouched A W nonce bytes

/-- The host lets the evidence through, and the appraiser finds nothing wrong with it. -/
structure Content (A : AppState K) (W : World K) (req : VerifyRequest) (tee : TeeType) (evidence : Bytes)
    (lifecycle : Option String) (claims : Json.Map K.json.Float) : Prop where
  host : A.hostEvidence W req tee.family = .ok (evidence, lifecycle)
  shape : tee.family.claims K (teeTypeStr tee) evidence (some req.nonce) (A.expectedInit tee.family) = .object claims
  shallow : depthMembers claims ≤ 110
  clean : Json.Map.get claims "error" = none
  verdict : Json.Map.get claims "verification" = some (.string "passed")
  named : Json.Map.get claims "tee_type" = some (.string (teeTypeStr tee))
  policy : ∀ kept : Json.Map K.json.Float, (∀ key, Json.Map.get kept key = (Json.Map.get claims key).map K.json.again) →
    A.enforcePolicy (K := K) (.object kept) tee.family = .ok ()
  affirming : ∀ kept : Json.Map K.json.Float, (∀ key, Json.Map.get kept key = (Json.Map.get claims key).map K.json.again) →
    ∀ bound, (trustVectorFor tee.family bound lifecycle (claimText (K := K) (.object kept) "tcb_status")).executables = 2

/-- A request that the host and the appraiser are content with gets an affirming EAR. -/
theorem Content.appraise {A : AppState K} {R : Registered} {W : World K} {req : VerifyRequest} {tee : TeeType}
    {evidence : Bytes} {lifecycle : Option String} {claims : Json.Map K.json.Float} (faithful : K.json.Faithful)
    (readsBack : K.json.ReadsBack) (content : Content A W req tee evidence lifecycle claims) {id : String}
    {appraiser : Appraiser} (asked : req.teeType = teeTypeNumber tee) (specified : tee ≠ .unspecified)
    (fresh : req.nonce ≠ []) (component : componentIdOf R req = .ok id)
    (compiled : R.compiled id = some (appraiser.component K)) (kind : appraiser.teeType = teeTypeStr tee) :
    ∃ ear, A.appraise R W req = .ok ear ∧ ear.trustVector.executables = 2 ∧ ear.submods.depth ≤ 111 := by
  have shape : appraiser.claims K evidence (some req.nonce) (A.expectedInit tee.family) = .object claims := by
    rw [Appraiser.claims_eq kind]
    exact content.shape
  have shallow := content.shallow
  obtain ⟨kept, read, each, depth⟩ := faithful.readBack readsBack (show depthMembers claims < 127 by omega)
  have clean : (Value.object kept).get "error" = none := by
    rw [Value.get, each, content.clean]
    rfl
  have evaluated := evaluate_passes compiled (congrArg (Except.ok ∘ K.json.print) shape) read clean
    (claimText_reread faithful (each "verification") content.verdict)
  have sameTee := claimText_reread faithful (each "tee_type") content.named
  have named : TeeType.tryFrom req.teeType = some tee := by rw [asked, RelyingParty.tryFrom_teeTypeNumber]
  have affirming := content.affirming kept each
  have deep : (Value.object kept).depth ≤ 111 := by
    rw [Value.depth]
    omega
  simp only [AppState.appraise, named, specified, fresh, component, content.host, evaluated, sameTee,
    content.policy kept each, okOr, ensure, bind, Except.bind, Except.mapError, Option.getD_some, if_true, ne_eq,
    not_false_eq_true, Except.ok.injEq, exists_eq_left']
  exact ⟨affirming _, deep⟩

end Vouching

section Families
variable {K : Crates} {A : AppState K} {W : World K} {req : VerifyRequest} {tee : TeeType}

/-- What a family without a policy and a measure of its own leaves to check. -/
theorem open_policy (A : AppState K) (cca : tee.family ≠ .cca) (tdx : tee.family ≠ .tdx) :
    (∀ claims : Value K.json.Float, A.enforcePolicy claims tee.family = .ok ()) ∧
      ∀ bound lifecycle status, (trustVectorFor tee.family bound lifecycle status).executables = 2 := by
  cases family : tee.family with
  | cca => exact absurd family cca
  | tdx => exact absurd family tdx
  | _ => exact ⟨fun _ => rfl, fun _ _ _ => rfl⟩

theorem mock_content {agent : Agent} {nonceB64 : String} (faithful : K.json.Faithful) (readsBack : K.json.ReadsBack)
    (clock : -(2 ^ 63) ≤ agent.nowSecs ∧ agent.nowSecs < 2 ^ 63) (kind : tee = .mock)
    (sent : req.evidence = K.json.toVec (buildMockPart agent nonceB64)) :
    ∃ evidence lifecycle claims, Content A W req tee evidence lifecycle claims := by
  subst kind
  obtain ⟨kept, read, each, depth⟩ := @Serde.Faithful.readBack K.json faithful readsBack [
      ("payload", .object [
        ("device_id", .string "mock-device-001"),
        ("challenge_b64", .string nonceB64),
        ("note", .string "stage-1 mock evidence")]),
      ("issued_at", .int agent.nowSecs)] (by simp [depthMembers, Value.depth])
  have payload : ∃ value, Json.Map.get kept "payload" = some value ∧ value.depth ≤ 1 := by
    refine ⟨_, each "payload", Nat.le_trans (Json.depth_of_get (each "payload")) (Nat.le_trans depth ?_)⟩
    simp [depthMembers, Value.depth]
  obtain ⟨value, held, flat⟩ := payload
  have issued : (Json.Map.get kept "issued_at").map Value.asI64 = some (some agent.nowSecs) := by
    rw [each]
    change some (K.json.again (.int agent.nowSecs)).asI64 = some (some agent.nowSecs)
    rw [faithful.again_asI64, Value.asI64, if_pos clock]
  have parsed : K.json.fromSliceAs readMockEvidence req.evidence = .ok ⟨value, agent.nowSecs⟩ := by
    refine Serde.fromSliceAs_eq_ok.mpr ⟨.object kept, sent ▸ read, ?_⟩
    simp [readMockEvidence, Value.fields, held, issued]
  have shape : Family.mock.claims K "mock" req.evidence (some req.nonce) (A.expectedInit .mock) = .object [
      ("tee_type", .string "mock"),
      ("verification", .string "passed"),
      ("payload", value),
      ("challenge_binding_data", .string (K.encodeBase64 req.nonce)),
      ("issued_at", .int agent.nowSecs)] := by
    simp only [Family.claims, mockClaims, parsed, Option.map_some, Option.getD_some]
  refine ⟨req.evidence, none, _, rfl, shape, ?_, rfl, rfl, rfl, fun _ _ => rfl, fun _ _ _ => rfl⟩
  simp only [depthMembers, Value.depth]
  omega

/-- Evidence that shows the nonce next to an encoded object satisfies the appraisers of CCA and CSV. -/
theorem passing_claims {teeType field label size : String} {keys : List String} {merged : Json.Map K.json.Float}
    {nonce bytes : Bytes} (faithful : K.json.Faithful) (readsBack : K.json.ReadsBack)
    (decodes : ∀ bytes, K.decodeBase64 (K.encodeBase64 bytes) = .ok bytes) (shallow : depthMembers merged ≤ 100)
    (carried : Json.Map.get merged field = some (.string (K.encodeBase64 bytes)))
    (fresh : Json.Map.get merged "nonce" = some (.string (K.encodeBase64Url nonce))) :
    ∃ claims, passingClaims K teeType field label size keys (K.json.toVec (.object merged)) (some nonce) =
        .object claims ∧ depthMembers claims ≤ 100 ∧
      (∀ key, key ∉ keys → Json.Map.get claims key =
        Json.Map.get (passedMembers K teeType size bytes.length) key) ∧
      ∀ key ∈ keys, ∀ text, Json.Map.get merged key = some (.string text) → Json.Map.get claims key = some (.string text) := by
  obtain ⟨kept, read, each, depth⟩ := faithful.readBack readsBack (show depthMembers merged < 127 by omega)
  have carried' : Json.Map.get kept field = some (.string (K.encodeBase64 bytes)) := by
    rw [each, carried, Option.map_some, faithful.again_string]
  have fresh' : Json.Map.get kept "nonce" = some (.string (K.encodeBase64Url nonce)) := by
    rw [each, fresh, Option.map_some, faithful.again_string]
  refine ⟨_, passingClaims_accepts read carried' (decodes bytes) fresh', ?_, fun key other => ?_,
    fun key listed text held => ?_⟩
  · exact passthrough_depth (Nat.le_trans depth shallow) (by simp [passedMembers, depthMembers, Value.depth])
  · rw [passthrough_get, if_neg other]
  · rw [passthrough_get, if_pos listed, Value.get, each, held, Option.map_some, faithful.again_string, Option.some_or]

/-- The content of a family whose appraiser passes members on, whatever the host has merged. -/
theorem passing_content {evidence bytes : Bytes} {lifecycle : Option String} {merged : Json.Map K.json.Float}
    {field label size : String} {keys : List String} (faithful : K.json.Faithful) (readsBack : K.json.ReadsBack)
    (decodes : ∀ bytes, K.decodeBase64 (K.encodeBase64 bytes) = .ok bytes)
    (host : A.hostEvidence W req tee.family = .ok (evidence, lifecycle)) (made : evidence = K.json.toVec (.object merged))
    (shallow : depthMembers merged ≤ 100)
    (carried : Json.Map.get merged field = some (.string (K.encodeBase64 bytes)))
    (fresh : Json.Map.get merged "nonce" = some (.string (K.encodeBase64Url req.nonce)))
    (own : tee.family.claims K (teeTypeStr tee) evidence (some req.nonce) (A.expectedInit tee.family) =
      passingClaims K (teeTypeStr tee) field label size keys evidence (some req.nonce))
    (apart : ∀ key ∈ ["error", "verification", "tee_type", "tcb_status"], key ∉ keys)
    (policy : ∀ claims : Value K.json.Float, (∀ key ∈ keys, ∀ text, Json.Map.get merged key = some (.string text) →
      claimText claims key = some text) → A.enforcePolicy claims tee.family = .ok ())
    (affirming : ∀ bound, (trustVectorFor tee.family bound lifecycle none).executables = 2)
    (sized : size ≠ "tcb_status") (named : size ≠ "error") :
    ∃ evidence lifecycle claims, Content A W req tee evidence lifecycle claims := by
  subst made
  obtain ⟨claims, shape, depth, others, passed⟩ := @passing_claims K (teeTypeStr tee) field label size keys merged
    req.nonce bytes faithful readsBack decodes shallow carried fresh
  -- No member that is passed on is one that the verifier looks at.
  have silent : Json.Map.get claims "tcb_status" = none := by
    rw [others _ (apart _ (by simp))]
    simp [passedMembers, sized]
  refine ⟨_, lifecycle, claims, host, own.trans shape, by omega, ?_, ?_, ?_, fun kept each => ?_, fun kept each bound => ?_⟩
  · rw [others _ (apart _ (by simp))]
    simp [passedMembers, named]
  · rw [others _ (apart _ (by simp))]
    rfl
  · rw [others _ (apart _ (by simp))]
    rfl
  · exact policy _ fun key listed text held => claimText_reread faithful (each key) (passed key listed text held)
  · have absent : claimText (K := K) (.object kept) "tcb_status" = none := by
      rw [@claimText_again K (.object claims) (.object kept) _ faithful (each "tcb_status"), claimText, Value.get, silent]
      rfl
    rw [absent]
    exact affirming bound

variable {agent : Agent} {bytes : Bytes} {members : Json.Map K.json.Float}

theorem injectCsvClaims_other {obj : Json.Map K.json.Float} {result : CsvVerificationResult} {key : String}
    (other : key ∉ csvKeys) : Json.Map.get (injectCsvClaims K obj result) key = Json.Map.get obj key := by
  simp only [csvKeys, List.mem_cons, List.not_mem_nil, or_false, not_or] at other
  simp only [injectCsvClaims, Json.Map.get_insertSome, Ne.symm other.1, Ne.symm other.2.1, Ne.symm other.2.2.1,
    Ne.symm other.2.2.2.1, Ne.symm other.2.2.2.2, if_false]

theorem injectCsvClaims_depth {obj : Json.Map K.json.Float} {result : CsvVerificationResult} {bound : Nat}
    (shallow : depthMembers obj ≤ bound) : depthMembers (injectCsvClaims K obj result) ≤ bound := by
  apply Json.depthMembers_insertSome _ fun _ held => scalar_depth (fun _ => rfl) held
  apply Json.depthMembers_insertSome _ fun _ held => scalar_depth (fun _ => rfl) held
  apply Json.depthMembers_insertSome _ fun _ held => scalar_depth (fun _ => rfl) held
  apply Json.depthMembers_insertSome _ fun _ held => scalar_depth (fun _ => rfl) held
  exact Json.depthMembers_insertSome shallow fun _ held => scalar_depth (fun _ => rfl) held

/-- The evidence of CCA and CSV as the verifier reads it. -/
theorem encoded_read {field : String} {nonce : Bytes} (faithful : K.json.Faithful) (readsBack : K.json.ReadsBack)
    (decodes : ∀ bytes, K.decodeBase64 (K.encodeBase64 bytes) = .ok bytes) (apart : field ≠ "nonce")
    (sent : req.evidence = K.json.toVec (.object
      [(field, .string (K.encodeBase64 bytes)), ("nonce", .string (K.encodeBase64Url nonce))])) :
    ∃ kept, K.json.fromSlice req.evidence = .ok (.object kept) ∧ depthMembers kept ≤ 2 ∧
      Json.Map.get kept field = some (.string (K.encodeBase64 bytes)) ∧
      Json.Map.get kept "nonce" = some (.string (K.encodeBase64Url nonce)) ∧
      extractB64Field (K := K) req.evidence field = .ok bytes := by
  obtain ⟨kept, read, each, depth⟩ := @Serde.Faithful.readBack K.json faithful readsBack
    [(field, .string (K.encodeBase64 bytes)), ("nonce", .string (K.encodeBase64Url nonce))]
    (by simp [depthMembers, Value.depth])
  have carried : Json.Map.get kept field = some (.string (K.encodeBase64 bytes)) := by
    rw [each]
    simp [faithful.again_string]
  have fresh : Json.Map.get kept "nonce" = some (.string (K.encodeBase64Url nonce)) := by
    rw [each]
    simp [apart, faithful.again_string]
  refine ⟨kept, sent ▸ read, Nat.le_trans depth (by simp [depthMembers, Value.depth]), carried, fresh, ?_⟩
  exact extractB64Field_ok.mpr ⟨_, _, sent ▸ read, by rw [Value.get, carried]; rfl, decodes bytes⟩

theorem cca_content (faithful : K.json.Faithful) (readsBack : K.json.ReadsBack)
    (decodes : ∀ bytes, K.decodeBase64 (K.encodeBase64 bytes) = .ok bytes) (family : tee.family = .cca)
    (vouched : Vouched A W req.nonce bytes .cca) (wrapped : envelope K agent req.nonce bytes .cca = some members)
    (sent : req.evidence = K.json.toVec (.object members)) :
    ∃ evidence lifecycle claims, Content A W req tee evidence lifecycle claims := by
  cases wrapped
  obtain ⟨kept, read, depth, carried, fresh, extracted⟩ := encoded_read faithful readsBack decodes (by decide) sent
  obtain ⟨unnamed, asks⟩ := vouched
  have own : ∀ evidence, tee.family.claims K (teeTypeStr tee) evidence (some req.nonce) (A.expectedInit tee.family) =
      passingClaims K (teeTypeStr tee) "cca_token_b64" "cca_token" "token_size" ccaKeys evidence (some req.nonce) := by
    intro evidence
    rw [family]
    rfl
  have affirming : ∀ lifecycle bound, (trustVectorFor tee.family bound lifecycle none).executables = 2 := by
    intro lifecycle bound
    rw [family]
    rfl
  cases configured : A.ccaVerifier with
  | none =>
    rw [configured] at asks
    have host : A.hostEvidence W req tee.family = .ok (K.json.toVec (.object kept), none) := by
      rw [family]
      simp only [AppState.hostEvidence, AppState.ccaEvidence, configured, parseEvidence, read, bind, Except.bind,
        Except.mapError]
    refine passing_content faithful readsBack decodes host rfl (by omega) carried fresh (own _) (by decide) ?_
      (affirming none) (by decide) (by decide)
    intro claims _
    rw [family]
    exact Wire.mapError_eq_ok.mpr (enforceCcaPolicy_eq_ok.mpr
      ⟨fun listed => absurd asks listed, fun listed => absurd unnamed listed⟩)
  | some verifier =>
    rw [configured] at asks
    obtain ⟨result, verified, measured⟩ := asks
    obtain ⟨e, -, -, -, rfl⟩ := CcaVerifier.verify_ok verified
    have host : A.hostEvidence W req tee.family = .ok
        (K.json.toVec (.object (injectCcaClaims K kept (ccaResult K e))), (ccaResult K e).ccaPlatformLifecycle) := by
      rw [family]
      simp only [AppState.hostEvidence, AppState.ccaEvidence, configured, parseEvidence, read, extracted, verified,
        rootObject, Value.asObject, okOr, bind, Except.bind, Except.mapError]
    have carried' := (@injectCcaClaims_other K kept (ccaResult K e) _ (by decide)).trans carried
    have fresh' := (@injectCcaClaims_other K kept (ccaResult K e) _ (by decide)).trans fresh
    refine passing_content faithful readsBack decodes host rfl (Nat.le_trans (injectCcaClaims_depth depth) (by decide))
      carried' fresh' (own _) (by decide) ?_ (affirming _) (by decide) (by decide)
    intro claims passed
    rw [family]
    refine Wire.mapError_eq_ok.mpr (enforceCcaPolicy_eq_ok.mpr ⟨fun listed => ?_, fun listed => absurd unnamed listed⟩)
    obtain ⟨rim, reported, entry, member, same⟩ := measured listed
    exact ⟨rim, passed _ (by decide) rim (injectCcaClaims_rim reported), entry, member, same⟩

theorem csv_content (faithful : K.json.Faithful) (readsBack : K.json.ReadsBack)
    (decodes : ∀ bytes, K.decodeBase64 (K.encodeBase64 bytes) = .ok bytes) (family : tee.family = .csv)
    (vouched : Vouched A W req.nonce bytes .csv) (wrapped : envelope K agent req.nonce bytes .csv = some members)
    (sent : req.evidence = K.json.toVec (.object members)) :
    ∃ evidence lifecycle claims, Content A W req tee evidence lifecycle claims := by
  cases wrapped
  obtain ⟨kept, read, depth, carried, fresh, extracted⟩ := encoded_read faithful readsBack decodes (by decide) sent
  have own : ∀ evidence, tee.family.claims K (teeTypeStr tee) evidence (some req.nonce) (A.expectedInit tee.family) =
      passingClaims K (teeTypeStr tee) "csv_evidence_b64" "csv_evidence" "evidence_size" csvKeys evidence
        (some req.nonce) := by
    intro evidence
    rw [family]
    rfl
  have affirming : ∀ bound, (trustVectorFor tee.family bound none none).executables = 2 := by
    intro bound
    rw [family]
    rfl
  have policy : ∀ claims : Value K.json.Float, A.enforcePolicy claims tee.family = .ok () := by
    intro claims
    rw [family]
    rfl
  cases configured : A.csvVerifier with
  | none =>
    have host : A.hostEvidence W req tee.family = .ok (K.json.toVec (.object kept), none) := by
      rw [family]
      simp only [AppState.hostEvidence, AppState.csvEvidence, configured, parseEvidence, read, bind, Except.bind,
        Except.mapError, Except.map]
    exact passing_content faithful readsBack decodes host rfl (by omega) carried fresh (own _) (by decide)
      (fun claims _ => policy claims) affirming (by decide) (by decide)
  | some verifier =>
    obtain ⟨result, verified⟩ := vouched verifier configured
    have host : A.hostEvidence W req tee.family = .ok (K.json.toVec (.object (injectCsvClaims K kept result)), none) := by
      rw [family]
      simp only [AppState.hostEvidence, AppState.csvEvidence, configured, parseEvidence, read, extracted, verified,
        rootObject, Value.asObject, okOr, bind, Except.bind, Except.mapError, Except.map]
    have carried' := (@injectCsvClaims_other K kept result _ (by decide)).trans carried
    have fresh' := (@injectCsvClaims_other K kept result _ (by decide)).trans fresh
    exact passing_content faithful readsBack decodes host rfl (injectCsvClaims_depth (by omega)) carried' fresh'
      (own _) (by decide) (fun claims _ => policy claims) affirming (by decide) (by decide)

/-- The envelope of a JSON answer has its members and the nonce. -/
theorem json_envelope {obj : Json.Map K.json.Float} {nonce : Bytes} (read : K.json.fromSlice bytes = .ok (.object obj))
    (kind : tee.family = .itrustee ∨ tee.family = .virtcca)
    (wrapped : envelope K agent nonce bytes tee.family = some members) :
    members = Json.Map.insert obj "nonce" (.string (K.encodeBase64Url nonce)) := by
  rcases kind with family | family
  all_goals
    rw [family] at wrapped
    simp only [envelope, read, Except.toOption, Option.bind_some, Value.asObject, Option.map_some, Option.some.injEq]
      at wrapped
    exact wrapped.symm

/-- A shape that lasts, that the host keeps and that the appraiser accepts makes the content of
a JSON answer. -/
theorem json_content {Shaped : Json.Map K.json.Float → Prop} (faithful : K.json.Faithful) (readsBack : K.json.ReadsBack)
    (kind : tee.family = .itrustee ∨ tee.family = .virtcca) (lasting : Lasting Shaped)
    (vouched : ∃ obj, K.json.fromSlice bytes = .ok (.object obj) ∧ depthMembers obj ≤ 100 ∧ Shaped obj)
    (wrapped : envelope K agent req.nonce bytes tee.family = some members)
    (sent : req.evidence = K.json.toVec (.object members))
    (merges : ∀ kept, K.json.fromSlice req.evidence = .ok (.object kept) → Ready Shaped req.nonce kept →
      ∃ merged, A.hostEvidence W req tee.family = .ok (K.json.toVec (.object merged), none) ∧
        Ready Shaped req.nonce merged)
    (accepts : ∀ evidence last, K.json.fromSlice evidence = .ok (.object last) → Ready Shaped req.nonce last →
      ∃ claims, tee.family.claims K (teeTypeStr tee) evidence (some req.nonce) (A.expectedInit tee.family) =
        .object claims ∧ Accepted (teeTypeStr tee) claims) :
    ∃ evidence lifecycle claims, Content A W req tee evidence lifecycle claims := by
  obtain ⟨obj, answered, shallow, shaped⟩ := vouched
  obtain rfl := json_envelope answered kind wrapped
  have wrappedReady : Ready Shaped req.nonce (Json.Map.insert obj "nonce" (.string (K.encodeBase64Url req.nonce))) :=
    ⟨lasting.nonce obj _ shaped, by simp [Json.Map.get_insert], Json.depthMembers_insert shallow (Nat.zero_le _)⟩
  obtain ⟨kept, read, ready⟩ := wrappedReady.again faithful readsBack lasting
  obtain ⟨merged, host, mergedReady⟩ := merges kept (sent ▸ read) ready
  obtain ⟨last, readAgain, lastReady⟩ := mergedReady.again faithful readsBack lasting
  obtain ⟨claims, shape, accepted⟩ := accepts _ last readAgain lastReady
  -- Neither family has a policy, and both are measured alike.
  obtain ⟨policy, affirming⟩ : (∀ claims : Value K.json.Float, A.enforcePolicy claims tee.family = .ok ()) ∧
      ∀ bound lifecycle status, (trustVectorFor tee.family bound lifecycle status).executables = 2 := by
    rcases kind with family | family
    all_goals exact open_policy A (by rw [family]; decide) (by rw [family]; decide)
  exact ⟨_, none, claims, host, shape, accepted.shallow, accepted.clean, accepted.verdict, accepted.named,
    fun _ _ => policy _, fun _ _ bound => affirming bound _ _⟩

theorem itrustee_content {agent : Agent} (faithful : K.json.Faithful) (readsBack : K.json.ReadsBack)
    (family : tee.family = .itrustee)
    (vouched : Vouched A W req.nonce bytes .itrustee)
    (wrapped : envelope K agent req.nonce bytes tee.family = some members)
    (sent : req.evidence = K.json.toVec (.object members)) :
    ∃ evidence lifecycle claims, Content A W req tee evidence lifecycle claims := by
  have lasting : Lasting (@ItrusteeShaped K) :=
    ⟨fun _ _ shaped each => shaped.again faithful each, fun _ nonce shaped => shaped.nonce nonce⟩
  refine json_content faithful readsBack (.inl family) lasting vouched wrapped sent (fun kept read ready => ?_)
    fun evidence last readAgain ready => ?_
  · -- The host puts its members over those it has read, or forwards them as they are.
    rw [family]
    cases claims : itrusteeExtractClaims K req.evidence with
    | error e =>
      refine ⟨kept, ?_, ready⟩
      simp only [AppState.hostEvidence, itrusteeEvidence, parseEvidence, read, claims, Except.mapError, bind,
        Except.bind, Except.map]
    | ok result =>
      refine ⟨injectItrusteeClaims K kept result, ?_, ready.shaped.injected result, ?_, ?_⟩
      · simp only [AppState.hostEvidence, itrusteeEvidence, parseEvidence, rootObject, Value.asObject, okOr, read,
          claims, Except.mapError, bind, Except.bind, Except.map]
      · simp [injectItrusteeClaims, Json.Map.get_insertSome, ready.fresh]
      · iterate 5 apply Json.depthMembers_insertSome _ fun _ held => scalar_depth (fun _ => rfl) held
        exact ready.flat
  · obtain ⟨parsed, reads, bound⟩ := readItrustee_shaped ready.shaped ready.fresh
    rw [family]
    exact itrusteeClaims_accepts (Serde.fromSliceAs_eq_ok.mpr ⟨_, readAgain, reads⟩) bound

theorem virtcca_content {agent : Agent} (faithful : K.json.Faithful) (readsBack : K.json.ReadsBack)
    (family : tee.family = .virtcca)
    (vouched : Vouched A W req.nonce bytes .virtcca)
    (wrapped : envelope K agent req.nonce bytes tee.family = some members)
    (sent : req.evidence = K.json.toVec (.object members)) :
    ∃ evidence lifecycle claims, Content A W req tee evidence lifecycle claims := by
  have lasting : Lasting (@VirtccaShaped K) :=
    ⟨fun _ _ shaped each => shaped.again faithful each, fun _ nonce shaped => shaped.nonce nonce⟩
  refine json_content faithful readsBack (.inr family) lasting vouched wrapped sent (fun kept read ready => ?_)
    fun evidence last readAgain ready => ?_
  · rw [family]
    cases claims : virtccaExtractClaims K req.evidence with
    | error e => simp [virtccaExtractClaims, read, bind, Except.bind] at claims
    | ok result =>
      refine ⟨injectVirtccaClaims K kept result, ?_, ready.shaped.injected result, ?_, ?_⟩
      · simp only [AppState.hostEvidence, virtccaEvidence, parseEvidence, rootObject, Value.asObject, okOr, read,
          claims, Except.mapError, bind, Except.bind, Except.map]
      · simp [injectVirtccaClaims, Json.Map.get_insertSome, Json.Map.get_insert, ready.fresh]
      · iterate 2 apply Json.depthMembers_insertSome _ fun _ held => scalar_depth (fun _ => rfl) held
        apply Json.depthMembers_insert _ (Nat.zero_le _)
        exact Json.depthMembers_insert ready.flat (Nat.zero_le _)
  · obtain ⟨parsed, reads, bound, deep⟩ := readVirtcca_shaped ready.shaped ready.fresh
    have components : ∀ found, parsed.virtccaPlatformSwComponents = some found → found.depth ≤ 110 :=
      fun found held => Nat.le_trans (deep found held) (Nat.le_trans ready.flat (by decide))
    rw [family]
    exact virtccaClaims_accepts (Serde.fromSliceAs_eq_ok.mpr ⟨_, readAgain, reads⟩) bound components

theorem matchHex_listed {claim : Option String} {list : List String} {field hex : String} (there : claim = some hex)
    (listed : list ≠ [] → list.any (fun entry => eqIgnoreAsciiCase entry hex) = true) :
    matchHex claim list field = .ok () := by
  by_cases given : list = []
  · simp [matchHex, given, pure, Except.pure]
  · simp [matchHex, given, there, okOr, ensure, listed given, bind, Except.bind]

theorem tdx_content {agent : Agent} (faithful : K.json.Faithful) (readsBack : K.json.ReadsBack)
    (decodes : ∀ bytes, K.decodeBase64 (K.encodeBase64 bytes) = .ok bytes) (family : tee.family = .tdx)
    (vouched : Vouched A W req.nonce bytes .tdx) (wrapped : envelope K agent req.nonce bytes .tdx = some members)
    (sent : req.evidence = K.json.toVec (.object members)) :
    ∃ evidence lifecycle claims, Content A W req tee evidence lifecycle claims := by
  cases wrapped
  obtain ⟨clock, collateral, printed, stored, report, td, fetched, prints, restored, verifies, parses, dataBound, init,
    status, accepted, listed⟩ := vouched
  obtain ⟨kept, read, each, depth⟩ := @Serde.Faithful.readBack K.json faithful readsBack
    [("quote_b64", .string (K.encodeBase64 bytes))] (by simp [depthMembers, Value.depth])
  rw [← sent] at read
  have quote : Json.Map.get kept "quote_b64" = some (.string (K.encodeBase64 bytes)) := by
    rw [each]
    simp [faithful.again_string]
  -- The host adds the collateral and the time, and the component reads all three.
  let merged := Json.Map.insert (Json.Map.insert kept "collateral_b64" (.string (K.encodeBase64 printed)))
    "now_secs" (.int W.injectedAt)
  have host : A.hostEvidence W req tee.family = .ok (K.json.toVec (.object merged), none) := by
    rw [family]
    have held : (Json.Map.get kept "quote_b64").bind Value.asStr = some (K.encodeBase64 bytes) := by
      rw [quote]
      rfl
    simp only [AppState.hostEvidence, injectTdxCollateral, read, Value.asObject, held, okOr, decodes, fetched, prints,
      Except.mapError, bind, Except.bind, Except.map, merged]
  have flat : depthMembers merged ≤ 1 := by
    apply Json.depthMembers_insert _ (Nat.zero_le _)
    refine Json.depthMembers_insert (Nat.le_trans depth ?_) (Nat.zero_le _)
    simp [depthMembers, Value.depth]
  obtain ⟨last, readAgain, eachAgain, _⟩ := faithful.readBack readsBack (Nat.lt_of_le_of_lt flat (by decide))
  have parsed : K.json.fromSliceAs readTdxEvidence (K.json.toVec (.object merged)) =
      .ok ⟨K.encodeBase64 bytes, K.encodeBase64 printed, W.injectedAt.toNat⟩ := by
    refine Serde.fromSliceAs_eq_ok.mpr ⟨_, readAgain, ?_⟩
    have first : (Json.Map.get last "quote_b64").bind Value.asStr = some (K.encodeBase64 bytes) := by
      rw [eachAgain]
      simp [merged, Json.Map.get_insert, quote, faithful.again_string, Value.asStr]
    have second : (Json.Map.get last "collateral_b64").bind Value.asStr = some (K.encodeBase64 printed) := by
      rw [eachAgain]
      simp [merged, Json.Map.get_insert, faithful.again_string, Value.asStr]
    have third : (Json.Map.get last "now_secs").bind Value.asU64 = some W.injectedAt.toNat := by
      have there : Json.Map.get merged "now_secs" = some (.int W.injectedAt) := by
        simp [merged, Json.Map.get_insert]
      rw [eachAgain, there, Option.map_some, Option.bind_some, faithful.again_asU64, Value.asU64, if_pos clock]
    simp [readTdxEvidence, Value.fields, first, second, third]
  have appraised : tdxAppraise K (K.json.toVec (.object merged)) (some req.nonce) (A.expectedInit .tdx) =
      .ok (report, td) := by
    simp only [tdxAppraise, parsed, b64, decodes, restored, verifies, parses, okOr, ensure, Option.all_some, dataBound,
      init, Except.mapError, bind, Except.bind, if_true]
  have shape : tee.family.claims K (teeTypeStr tee) (K.json.toVec (.object merged)) (some req.nonce)
      (A.expectedInit tee.family) = .object [
        ("tee_type", .string (teeTypeStr tee)),
        ("verification", .string "passed"),
        ("tcb_status", .string report.status),
        ("advisory_ids", .array (report.advisoryIds.map .string)),
        ("mr_td", .string (hexEncode td.mrTd)),
        ("mr_seam", .string (hexEncode td.mrSeam)),
        ("mr_signer_seam", .string (hexEncode td.mrSignerSeam)),
        ("mr_config_id", .string (hexEncode td.mrConfigId)),
        ("report_data", .string (hexEncode td.reportData))] := by
    rw [family]
    simp only [Family.claims, tdxClaims, appraised]
  refine ⟨_, none, _, host, shape, ?_, rfl, rfl, rfl, fun last each => ?_, fun last each bound => ?_⟩
  · have advisories : Json.depthItems (report.advisoryIds.map Value.string : List (Value K.json.Float)) ≤ 0 := by
      refine Json.depthItems_le fun item member => ?_
      obtain ⟨id, -, rfl⟩ := List.mem_map.mp member
      exact Nat.le_refl 0
    simp only [depthMembers, Value.depth]
    omega
  · rw [family]
    refine Wire.mapError_eq_ok.mpr ?_
    have mrTd : matchHex (claimText (K := K) (.object last) "mr_td") A.tdxPolicy.trustedMrTdHex "mr_td" = .ok () :=
      matchHex_listed (claimText_reread faithful (each _) rfl)
        (listed (A.tdxPolicy.trustedMrTdHex, td.mrTd) (by simp))
    have mrSeam : matchHex (claimText (K := K) (.object last) "mr_seam") A.tdxPolicy.trustedMrSeamHex "mr_seam" =
        .ok () :=
      matchHex_listed (claimText_reread faithful (each _) rfl)
        (listed (A.tdxPolicy.trustedMrSeamHex, td.mrSeam) (by simp))
    have mrConfigId : matchHex (claimText (K := K) (.object last) "mr_config_id") A.tdxPolicy.trustedMrConfigIdHex
        "mr_config_id" = .ok () :=
      matchHex_listed (claimText_reread faithful (each _) rfl)
        (listed (A.tdxPolicy.trustedMrConfigIdHex, td.mrConfigId) (by simp))
    have told : claimText (K := K) (.object last) "tcb_status" = some report.status :=
      claimText_reread faithful (each "tcb_status") rfl
    rw [enforceTdxPolicy, mrTd, mrSeam, mrConfigId, told, status]
    by_cases given : A.tdxPolicy.acceptTcbStatus = []
    · simp [given, bind, Except.bind, pure, Except.pure]
    · simp [given, okOr, ensure, accepted given, bind, Except.bind]
  · rw [claimText_reread faithful (each "tcb_status") rfl, status, family]
    rfl

end Families

end UnifiedAttestation.Protocol
