import UnifiedAttestation.Grpc.CcaPolicy
import UnifiedAttestation.Grpc.ConfigIds

/-! What decides over TDX evidence.

The host puts its own collateral and clock into the evidence before an appraiser sees it, so
the quote is the only member of the evidence that counts.
-/

set_option autoImplicit false

namespace UnifiedAttestation.Grpc

open Wire (Bytes okOr ensure)
open Json (Value Serde depthMembers depthItems)

section Lists
variable {K : Crates}

/-- The value passes a list of hex texts. -/
def Allowed (value : Bytes) (list : List String) : Prop := list = [] ∨ Listed value list

theorem matchHex_ok {claims : Value K.json.Float} {value : Bytes} {list : List String} {field : String}
    (reported : claimText claims field = some (hexEncode value)) :
    matchHex (claimText claims field) list field = .ok () ↔ Allowed value list := by
  rw [reported, Allowed]
  constructor
  · intro matched
    by_cases empty : list = []
    · exact .inl empty
    · simp only [matchHex, if_pos empty, okOr, Wire.bind_eq_ok, Except.ok.injEq, exists_eq_left', Wire.ensure_eq_ok,
        List.any_eq_true] at matched
      obtain ⟨entry, held, same⟩ := matched
      exact .inr ⟨entry, held, hexDecode_eq_some.mpr same⟩
  · rintro (rfl | ⟨entry, held, decodes⟩)
    · rfl
    · exact matchHex_of_mem held (hexDecode_eq_some.mp decodes)

/-- What the policy for TDX reads in the claims. -/
structure States (claims : Value K.json.Float) (verified : VerifiedReport) (td : TdReport) : Prop where
  mrTd : claimText claims "mr_td" = some (hexEncode td.mrTd)
  mrSeam : claimText claims "mr_seam" = some (hexEncode td.mrSeam)
  mrConfigId : claimText claims "mr_config_id" = some (hexEncode td.mrConfigId)
  reportData : claimText claims "report_data" = some (hexEncode td.reportData)
  status : claimText claims "tcb_status" = some verified.status

/-- The measurements and the TCB status are in the lists that are not empty. -/
structure TdxPolicy.Admits (policy : TdxPolicy) (verified : VerifiedReport) (td : TdReport) : Prop where
  mrTd : Allowed td.mrTd policy.trustedMrTdHex
  mrSeam : Allowed td.mrSeam policy.trustedMrSeamHex
  mrConfigId : Allowed td.mrConfigId policy.trustedMrConfigIdHex
  status : policy.acceptTcbStatus = [] ∨ verified.status ∈ policy.acceptTcbStatus

theorem enforceTdxPolicy_iff {policy : TdxPolicy} {claims : Value K.json.Float} {verified : VerifiedReport}
    {td : TdReport} (states : States claims verified td) :
    enforceTdxPolicy policy claims = .ok () ↔ policy.Admits verified td := by
  have status : (if policy.acceptTcbStatus ≠ [] then do
        let s ← okOr "claims.tcb_status missing" (claimText claims "tcb_status")
        ensure (s ∈ policy.acceptTcbStatus) s!"tcb_status '{s}' not accepted"
      else pure () : Except String Unit) = .ok () ↔
      policy.acceptTcbStatus = [] ∨ verified.status ∈ policy.acceptTcbStatus := by
    rw [states.status]
    by_cases empty : policy.acceptTcbStatus = []
    · simp [empty, pure, Except.pure]
    · simp [empty, okOr, bind, Except.bind, Wire.ensure_eq_ok]
  simp only [enforceTdxPolicy, Wire.bind_eq_ok]
  constructor
  · rintro ⟨_, mrTd, _, mrSeam, _, mrConfigId, accepted⟩
    exact ⟨(matchHex_ok states.mrTd).mp mrTd, (matchHex_ok states.mrSeam).mp mrSeam,
      (matchHex_ok states.mrConfigId).mp mrConfigId, status.mp accepted⟩
  · intro admits
    exact ⟨(), (matchHex_ok states.mrTd).mpr admits.mrTd, (), (matchHex_ok states.mrSeam).mpr admits.mrSeam, (),
      (matchHex_ok states.mrConfigId).mpr admits.mrConfigId, status.mpr admits.status⟩

end Lists

section Hosted
variable {K : Crates} {W : World K}

/-- The evidence with what the host puts there. -/
def hosted (W : World K) (members : Json.Map K.json.Float) (collateralBin : Bytes) : Json.Map K.json.Float :=
  Json.Map.insert (Json.Map.insert members "collateral_b64" (.string (K.encodeBase64 collateralBin))) "now_secs"
    (.int W.injectedAt)

theorem injectTdxCollateral_iff {evidence injected : Bytes} {url : String} :
    injectTdxCollateral W evidence url = .ok injected ↔ ∃ members text quote collateral collateralBin,
      K.json.fromSlice evidence = .ok (.object members) ∧
      (Json.Map.get members "quote_b64").bind Value.asStr = some text ∧ K.decodeBase64 text = .ok quote ∧
      W.getCollateral url quote = .ok collateral ∧ K.printCollateral collateral = .ok collateralBin ∧
      injected = K.json.toVec (.object (hosted W members collateralBin)) := by
  simp only [injectTdxCollateral, Wire.bind_eq_ok, Wire.mapError_eq_ok, Wire.okOr_eq_ok]
  constructor
  · rintro ⟨value, read, members, root, text, quoted, quote, decodes, collateral, fetched, collateralBin, printed, same⟩
    cases same
    cases value with
    | object held =>
      cases root
      exact ⟨_, text, quote, collateral, collateralBin, read, quoted, decodes, fetched, printed, rfl⟩
    | _ => cases root
  · rintro ⟨members, text, quote, collateral, collateralBin, read, quoted, decodes, fetched, printed, rfl⟩
    exact ⟨_, read, members, rfl, text, quoted, quote, decodes, collateral, fetched, collateralBin, printed, rfl⟩

/-- The host's clock as the appraiser reads it. -/
def World.Clock (W : World K) (now : Nat) : Prop := (Value.int W.injectedAt : Value K.json.Float).asU64 = some now

/-- What an appraiser reads in the evidence that the host prepared. -/
theorem readTdxEvidence_hosted (faithful : K.json.Faithful) (readsBack : K.json.ReadsBack) (limited : K.json.Limited)
    {evidence collateralBin : Bytes} {members : Json.Map K.json.Float} {parsed : TdxEvidence}
    (read : K.json.fromSlice evidence = .ok (.object members)) :
    K.json.fromSliceAs readTdxEvidence (K.json.toVec (.object (hosted W members collateralBin))) = .ok parsed ↔
      (Json.Map.get members "quote_b64").bind Value.asStr = some parsed.quoteB64 ∧
        parsed.collateralB64 = K.encodeBase64 collateralBin ∧ W.Clock parsed.nowSecs := by
  have near : depthMembers members < 127 := by
    have depth := limited _ _ read
    rw [Value.depth] at depth
    omega
  have flat : depthMembers (hosted W members collateralBin) ≤ depthMembers members :=
    Json.depthMembers_insert (Json.depthMembers_insert (Nat.le_refl _) (Nat.zero_le _)) (Nat.zero_le _)
  obtain ⟨kept, again, each, -⟩ := faithful.readBack readsBack (Nat.lt_of_le_of_lt flat near)
  have quoted : (Json.Map.get kept "quote_b64").bind Value.asStr = (Json.Map.get members "quote_b64").bind Value.asStr := by
    rw [each, hosted, Json.Map.get_insert, if_neg (by decide), Json.Map.get_insert, if_neg (by decide)]
    exact Serde.bind_again faithful.again_asStr _
  have collateral : (Json.Map.get kept "collateral_b64").bind Value.asStr = some (K.encodeBase64 collateralBin) := by
    rw [each, hosted, Json.Map.get_insert, if_neg (by decide), Json.Map.get_insert, if_pos rfl, Option.map_some,
      faithful.again_string]
    rfl
  have clock : (Json.Map.get kept "now_secs").bind Value.asU64 = (Value.int W.injectedAt : Value K.json.Float).asU64 := by
    rw [each, hosted, Json.Map.get_insert, if_pos rfl, Option.map_some, Option.bind_some, faithful.again_asU64]
  have shape : readTdxEvidence (K := K) (.object kept) = (do
      let quoteB64 ← (Json.Map.get kept "quote_b64").bind Value.asStr
      let collateralB64 ← (Json.Map.get kept "collateral_b64").bind Value.asStr
      let nowSecs ← (Json.Map.get kept "now_secs").bind Value.asU64
      some ⟨quoteB64, collateralB64, nowSecs⟩) := rfl
  rw [quoted, collateral, clock] at shape
  rw [Serde.fromSliceAs_eq_ok]
  simp only [again, Except.ok.injEq, exists_eq_left', shape, Option.bind_eq_bind, Option.bind_some,
    Option.bind_eq_some_iff, Option.some.injEq, World.Clock]
  constructor
  · rintro ⟨text, there, now, told, rfl⟩
    exact ⟨there, rfl, told⟩
  · obtain ⟨text, encoded, now⟩ := parsed
    rintro ⟨there, rfl, told⟩
    exact ⟨text, there, now, told, rfl⟩

/-- The report data of a quote is the nonce, filled up with zeros. -/
theorem reportDataMatches_iff {field nonce : Bytes} {size : Nat} (length : field.length = size) :
    reportDataMatches field nonce = true ↔ nonce.length ≤ size ∧ field = resize nonce size := by
  constructor
  · intro bound
    have short : nonce.length ≤ size := by
      have front := (Bool.and_eq_true_iff.mp bound).1
      have lengths := congrArg List.length (beq_iff_eq.mp front)
      rw [List.length_take] at lengths
      omega
    exact ⟨short, (resize_of_reportDataMatches length bound).symm⟩
  · rintro ⟨short, rfl⟩
    have cut : min nonce.length (resize nonce size).length = nonce.length := by rw [resize_length, Nat.min_eq_left short]
    have whole : resize nonce size = nonce ++ List.replicate (size - nonce.length) 0 := resize_of_le short
    rw [reportDataMatches, cut, whole, List.take_left, List.drop_left]
    simp

/-- The libraries undo what they print. -/
structure Crates.Restores (K : Crates) : Prop where
  base64 : ∀ bytes, K.decodeBase64 (K.encodeBase64 bytes) = .ok bytes
  collateral : ∀ collateral printed, K.printCollateral collateral = .ok printed → K.readCollateral printed = .ok collateral

theorem tdxAppraise_hosted (faithful : K.json.Faithful) (readsBack : K.json.ReadsBack) (limited : K.json.Limited)
    (restores : K.Restores) {evidence collateralBin quote nonce : Bytes} {text : String} {init : Option Bytes}
    {members : Json.Map K.json.Float} {collateral : K.Collateral} {verified : VerifiedReport} {td : TdReport}
    (read : K.json.fromSlice evidence = .ok (.object members))
    (quoted : (Json.Map.get members "quote_b64").bind Value.asStr = some text) (decodes : K.decodeBase64 text = .ok quote)
    (printed : K.printCollateral collateral = .ok collateralBin) :
    tdxAppraise K (K.json.toVec (.object (hosted W members collateralBin))) (some nonce) init = .ok (verified, td) ↔
      ∃ now, W.Clock now ∧ K.verifyQuote quote collateral now = .ok verified ∧ K.parseQuote quote = .ok (some td) ∧
        nonce.length ≤ 64 ∧ td.reportData = resize nonce 64 ∧ init.all (initDataMatches td.mrConfigId) = true := by
  simp only [tdxAppraise, b64, Wire.bind_eq_ok, Wire.mapError_eq_ok, Wire.okOr_eq_ok, Wire.ensure_eq_ok,
    readTdxEvidence_hosted faithful readsBack limited read, Option.all_some]
  constructor
  · rintro ⟨⟨text', encoded, now⟩, ⟨same, rfl, clock⟩, quote', decodes', bin, restored, collateral', reread, verified',
      dcap, parsed, parses, td', isTd, _, bound, _, matched, result⟩
    cases quoted.symm.trans same
    cases decodes.symm.trans decodes'
    cases (restores.base64 collateralBin).symm.trans restored
    cases (restores.collateral collateral collateralBin printed).symm.trans reread
    cases result
    obtain ⟨short, data⟩ := (reportDataMatches_iff td.reportData_length).mp bound
    exact ⟨now, clock, dcap, isTd ▸ parses, short, data, matched⟩
  · rintro ⟨now, clock, dcap, parses, short, data, matched⟩
    exact ⟨⟨text, K.encodeBase64 collateralBin, now⟩, ⟨quoted, rfl, clock⟩, quote, decodes, collateralBin,
      restores.base64 collateralBin, collateral, restores.collateral collateral collateralBin printed, verified, dcap, some td,
      parses, td, rfl, (), (reportDataMatches_iff td.reportData_length).mpr ⟨short, data⟩, (), matched, rfl⟩

end Hosted

section Acceptance
variable {K : Crates}

/-- Why evidence of TDX is trusted: nothing but the quote, the nonce, and what the host
itself fetched, knows and was told. -/
structure Trusted (A : AppState K) (W : World K) (req : VerifyRequest) (quote : Bytes) (verified : VerifiedReport)
    (td : TdReport) : Prop where
  asked : req.nonce ≠ [] ∧ req.nonce.length ≤ 64
  carried : ∃ members, K.json.fromSlice req.evidence = .ok (.object members)
  quoted : extractB64Field (K := K) req.evidence "quote_b64" = .ok quote
  vouched : ∃ collateral now, W.getCollateral A.tdxPolicy.pccsUrl quote = .ok collateral ∧
    (∃ printed, K.printCollateral collateral = .ok printed) ∧ W.Clock now ∧
    K.verifyQuote quote collateral now = .ok verified
  reported : K.parseQuote quote = .ok (some td)
  bound : td.reportData = resize req.nonce 64
  first : (A.expectedInit .tdx).all (initDataMatches td.mrConfigId) = true
  admitted : A.tdxPolicy.Admits verified td

/-- The request names an appraiser of its kind. -/
def Chooses (K : Crates) (R : Registered) (req : VerifyRequest) (tee : TeeType) : Prop :=
  ∃ componentId, ∃ appraiser : Appraiser, componentIdOf R req = .ok componentId ∧
    R.compiled componentId = some (appraiser.component K) ∧ appraiser.teeType = teeTypeStr tee

/-- What an EAR about a quote says. -/
structure About (req : VerifyRequest) (verified : VerifiedReport) (td : TdReport) (ear : EarClaims K) : Prop where
  nonce : ear.eatNonce = K.encodeBase64Url req.nonce
  states : States ear.submods verified td
  trust : ear.trustVector = trustVectorFor .tdx false none (some verified.status)

theorem trustVectorFor_tdx (bound : Bool) (lifecycle status : Option String) :
    trustVectorFor .tdx bound lifecycle status = trustVectorFor .tdx false none status := rfl

/-- What the appraiser for TDX says of a report, printed and read. -/
theorem states_of_claims (faithful : K.json.Faithful) {teeType : String} {evidence : Bytes} {expected init : Option Bytes}
    {verified : VerifiedReport} {td : TdReport} {claims : Value K.json.Float}
    (appraised : tdxAppraise K evidence expected init = .ok (verified, td))
    (same : ∀ key, claims.get key = ((tdxClaims K teeType evidence expected init).get key).map K.json.again) :
    States claims verified td := by
  rw [tdxClaims, appraised] at same
  have text : ∀ key said, ((Value.object [
        ("tee_type", .string teeType), ("verification", .string "passed"), ("tcb_status", .string verified.status),
        ("advisory_ids", .array (verified.advisoryIds.map .string)), ("mr_td", .string (hexEncode td.mrTd)),
        ("mr_seam", .string (hexEncode td.mrSeam)), ("mr_signer_seam", .string (hexEncode td.mrSignerSeam)),
        ("mr_config_id", .string (hexEncode td.mrConfigId)), ("report_data", .string (hexEncode td.reportData))] :
        Value K.json.Float).get key) = some (.string said) → claimText claims key = some said := by
    intro key said there
    rw [claimText_again faithful (same key), claimText, there]
    rfl
  exact ⟨text "mr_td" _ rfl, text "mr_seam" _ rfl, text "mr_config_id" _ rfl, text "report_data" _ rfl,
    text "tcb_status" _ rfl⟩

theorem Appraised.trusted {A : AppState K} {R : Registered} {W : World K} {req : VerifyRequest} {ear : EarClaims K}
    {tee : TeeType} {componentId : String} {evidence : Bytes} {lifecycle : Option String} (faithful : K.json.Faithful)
    (readsBack : K.json.ReadsBack) (limited : K.json.Limited) (restores : K.Restores) (shipped : Shipped K R)
    (family : tee.family = .tdx) (appraised : Appraised A R W req ear tee componentId evidence lifecycle) :
    ∃ quote verified td, Trusted A W req quote verified td ∧ Chooses K R req tee ∧ About req verified td ear := by
  obtain ⟨appraiser, compiled, named, quiet, same⟩ := appraised.ran faithful shipped
  have claims : appraiser.claims K evidence (some req.nonce) (A.expectedInit tee.family) =
      tdxClaims K (teeTypeStr tee) evidence (some req.nonce) (A.expectedInit .tdx) := by
    rw [Appraiser.claims_eq named, family]
    rfl
  rw [claims] at quiet same
  obtain ⟨verified, td, accepted⟩ := tdxClaims_passed quiet
  have states := states_of_claims faithful accepted same
  have host := appraised.host
  rw [family] at host
  have injected : injectTdxCollateral W req.evidence A.tdxPolicy.pccsUrl = .ok evidence := by
    cases made : injectTdxCollateral W req.evidence A.tdxPolicy.pccsUrl with
    | error message => simp [AppState.hostEvidence, made, Except.mapError, Except.map] at host
    | ok bytes =>
      simp only [AppState.hostEvidence, made, Except.mapError, Except.map, Except.ok.injEq, Prod.mk.injEq] at host
      rw [host.1]
  obtain ⟨members, text, quote, collateral, collateralBin, read, quoted, decodes, fetched, printed, rfl⟩ :=
    injectTdxCollateral_iff.mp injected
  obtain ⟨now, clock, dcap, parses, short, data, matched⟩ :=
    (tdxAppraise_hosted faithful readsBack limited restores read quoted decodes printed).mp accepted
  have policy := appraised.policy
  rw [family] at policy
  have admits := (enforceTdxPolicy_iff states).mp (Wire.mapError_eq_ok.mp policy)
  have extracted : extractB64Field (K := K) req.evidence "quote_b64" = .ok quote :=
    extractB64Field_ok.mpr ⟨_, text, read, quoted, decodes⟩
  refine ⟨quote, verified, td, ?_, ⟨componentId, appraiser, appraised.component, compiled, named⟩, ?_⟩
  · exact ⟨⟨appraised.nonce, short⟩, ⟨members, read⟩, extracted,
      ⟨collateral, now, fetched, ⟨collateralBin, printed⟩, clock, dcap⟩, parses, data, matched, admits⟩
  · refine ⟨appraised.eat_nonce, states, ?_⟩
    rw [appraised.trust, family, states.status, trustVectorFor_tdx]

theorem Trusted.appraises {A : AppState K} {R : Registered} {W : World K} {req : VerifyRequest} {tee : TeeType}
    {quote : Bytes} {verified : VerifiedReport} {td : TdReport} (faithful : K.json.Faithful)
    (readsBack : K.json.ReadsBack) (limited : K.json.Limited) (restores : K.Restores)
    (kind : TeeType.tryFrom req.teeType = some tee) (family : tee.family = .tdx)
    (trusted : Trusted A W req quote verified td) (chooses : Chooses K R req tee) :
    ∃ ear, A.appraise R W req = .ok ear := by
  obtain ⟨componentId, appraiser, component, compiled, named⟩ := chooses
  obtain ⟨members, read⟩ := trusted.carried
  obtain ⟨value, text, again, quoted, decodes⟩ := extractB64Field_ok.mp trusted.quoted
  cases read.symm.trans again
  obtain ⟨collateral, now, fetched, ⟨collateralBin, printed⟩, clock, dcap⟩ := trusted.vouched
  have injected := injectTdxCollateral_iff.mpr
    ⟨members, text, quote, collateral, collateralBin, read, quoted, decodes, fetched, printed, rfl⟩
  have accepted := (tdxAppraise_hosted faithful readsBack limited restores read quoted decodes printed).mpr
    ⟨now, clock, dcap, trusted.reported, trusted.asked.2, trusted.bound, trusted.first⟩
  have claims : appraiser.claims K (K.json.toVec (.object (hosted W members collateralBin))) (some req.nonce)
      (A.expectedInit .tdx) = tdxClaims K (teeTypeStr tee) (K.json.toVec (.object (hosted W members collateralBin)))
        (some req.nonce) (A.expectedInit .tdx) := by
    rw [Appraiser.claims_eq named, family]
    rfl
  obtain ⟨said, object⟩ := appraiser.claims_object (K := K) (K.json.toVec (.object (hosted W members collateralBin)))
    (some req.nonce) (A.expectedInit .tdx)
  have near : depthMembers said < 127 := by
    have same := object.symm.trans claims
    rw [tdxClaims, accepted] at same
    cases same
    have flat : depthItems (verified.advisoryIds.map (.string : String → Value K.json.Float)) ≤ 0 := by
      refine Json.depthItems_le fun item listed => ?_
      obtain ⟨_, -, rfl⟩ := List.mem_map.mp listed
      exact Nat.le_refl _
    simp only [depthMembers, Value.depth]
    omega
  obtain ⟨kept, reread, each, -⟩ := faithful.readBack readsBack near
  have same : ∀ key, (Value.object kept).get key = ((tdxClaims K (teeTypeStr tee)
      (K.json.toVec (.object (hosted W members collateralBin))) (some req.nonce) (A.expectedInit .tdx)).get key).map
        K.json.again := by
    intro key
    rw [← claims, object]
    exact each key
  have states := states_of_claims faithful accepted same
  have said_text : ∀ key text, (tdxClaims K (teeTypeStr tee) (K.json.toVec (.object (hosted W members collateralBin)))
      (some req.nonce) (A.expectedInit .tdx)).get key = some (.string text) →
      claimText (K := K) (.object kept) key = some text := by
    intro key text there
    rw [claimText_again faithful (same key), claimText, there]
    rfl
  have clean : (Value.object kept).get "error" = none := by
    rw [same, tdxClaims, accepted]
    rfl
  have verdict := said_text "verification" "passed" (by rw [tdxClaims, accepted]; rfl)
  have sameTee := said_text "tee_type" (teeTypeStr tee) (by rw [tdxClaims, accepted]; rfl)
  have evaluated := evaluate_passes compiled (congrArg (Except.ok ∘ K.json.print) object) reread clean verdict
  have policy : A.enforcePolicy (.object kept) .tdx = .ok () :=
    Wire.mapError_eq_ok.mpr ((enforceTdxPolicy_iff states).mpr trusted.admitted)
  have specified : tee ≠ .unspecified := by
    rintro rfl
    cases family
  simp only [AppState.appraise, kind, specified, trusted.asked.1, component, family, AppState.hostEvidence, injected,
    evaluated, sameTee, policy, okOr, ensure, bind, Except.bind, Except.mapError, Except.map, Option.getD_some, if_true,
    ne_eq, not_false_eq_true, Except.ok.injEq, exists_eq']

end Acceptance

section Guest

def guestTdReport (quote : Bytes) : TdReport := { referenceTdReport quote with mrTd := [0xab, 0xcd] }

def guestCrates : Crates :=
  { referenceCrates [] with
    json := Serde.shallow
    parseQuote := fun quote => .ok (some (guestTdReport quote)) }

def guestRequest (members : Json.Map Empty) : VerifyRequest where
  teeType := 5
  nonce := [1]
  evidence := Serde.shallow.toVec (.object members)
  wasm := some (.wasmComponentId "tdx-hydra")

end Guest

end UnifiedAttestation.Grpc
