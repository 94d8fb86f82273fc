import UnifiedAttestation.Grpc.Replay

/-! The whitelist of `mr_config_id` values for TDX evidence.

The host hands the first entry to the appraiser, which compares it with the quote, and
matches all entries against the claims afterwards. An EAR needs both.
-/

set_option autoImplicit false

namespace UnifiedAttestation.Grpc

open Wire (Bytes okOr ensure)
open Json (Value Serde)

section Entries

/-- An entry of 96 hex digits in any letter case. -/
def ConfigIdHex (entry : String) : Prop :=
  entry.toList.length = 96 ∧ ∀ digit ∈ entry.toList, digit.toLower ∈ hexDigits.toList

/-- Some entry decodes to the config id. -/
def Listed (configId : Bytes) (list : List String) : Prop := ∃ entry ∈ list, hexDecode entry = some configId

/-- The first entry decodes to the config id. -/
def Leads (configId : Bytes) (list : List String) : Prop := list.head?.bind hexDecode = some configId

theorem Leads.listed {configId : Bytes} {list : List String} (leads : Leads configId list) : Listed configId list := by
  obtain ⟨entry, first, decodes⟩ := Option.bind_eq_some_iff.mp leads
  exact ⟨entry, List.mem_of_head? first, decodes⟩

theorem leads_cons {configId : Bytes} {entry : String} {rest : List String} :
    Leads configId (entry :: rest) ↔ hexDecode entry = some configId := Iff.rfl

theorem ConfigIdHex.decodes {entry : String} (hex : ConfigIdHex entry) :
    ∃ bytes, hexDecode entry = some bytes ∧ bytes.length = 48 := by
  obtain ⟨length, digits⟩ := hex
  obtain ⟨bytes, decoded⟩ := Option.isSome_iff_exists.mp (hexPairs_isSome (by omega) digits)
  have sized := hexPairs_length decoded
  exact ⟨bytes, decoded, by omega⟩

/-- Between values of one length the appraiser compares all bytes. -/
theorem initDataMatches_iff {configId expected : Bytes} (same : expected.length = configId.length) :
    initDataMatches configId expected = true ↔ configId = expected := by
  rw [initDataMatches, same, Nat.min_self, List.take_length, beq_iff_eq]

end Entries

section Whitelist
variable {K : Crates}

def AppState.withConfigIds (A : AppState K) (list : List String) : AppState K :=
  { A with tdxPolicy := { A.tdxPolicy with trustedMrConfigIdHex := list } }

/-- The `mr_config_id` of a TD report has 48 bytes. -/
def Crates.ConfigIdsSized (K : Crates) : Prop :=
  ∀ quote td, K.parseQuote quote = .ok (some td) → td.mrConfigId.length = 48

/-- The request is answered with an EAR. -/
def AppState.Obtains (A : AppState K) (R : Registered) (W : World K) (req : VerifyRequest) : Prop :=
  ∃ response, A.verify R W req = .ok response

/-- A TDX request about a TD report that passes everything but the list of config ids. -/
structure PassesOtherwise (A : AppState K) (R : Registered) (W : World K) (req : VerifyRequest) (td : TdReport) :
    Prop where
  kind : ∃ tee, TeeType.tryFrom req.teeType = some tee ∧ tee.family = .tdx
  quoted : ∃ object, extractB64Field (K := K) req.evidence Family.tdx.objectKey = .ok object ∧
    K.parseQuote object = .ok (some td)
  passes : (A.withConfigIds []).Obtains R W req

theorem matchHex_of_mem {value entry field : String} {list : List String} (held : entry ∈ list)
    (same : eqIgnoreAsciiCase entry value = true) : matchHex (some value) list field = .ok () := by
  have found : list.any (fun s => eqIgnoreAsciiCase s value) = true := List.any_eq_true.mpr ⟨entry, held, same⟩
  by_cases empty : list = []
  · simp [matchHex, empty, pure, Except.pure]
  · simp [matchHex, empty, found, okOr, ensure, bind, Except.bind]

/-- The policy with a list of config ids, when the policy without one holds. -/
theorem enforceTdxPolicy_ok {policy : TdxPolicy} {claims : Value K.json.Float} {configId : Bytes}
    {list : List String} (reported : claimText claims "mr_config_id" = some (hexEncode configId))
    (listed : Listed configId list)
    (passes : enforceTdxPolicy { policy with trustedMrConfigIdHex := [] } claims = .ok ()) :
    enforceTdxPolicy { policy with trustedMrConfigIdHex := list } claims = .ok () := by
  obtain ⟨entry, held, decodes⟩ := listed
  have matched : matchHex (some (hexEncode configId)) list "mr_config_id" = .ok () :=
    matchHex_of_mem held (hexDecode_eq_some.mp decodes)
  simp only [enforceTdxPolicy, Wire.bind_eq_ok] at passes ⊢
  obtain ⟨_, mrTd, _, mrSeam, _, _, rest⟩ := passes
  rw [reported]
  exact ⟨(), mrTd, (), mrSeam, (), matched, rest⟩

/-- A state that evaluates and checks an answered request alike answers it alike. -/
theorem AppState.appraise_congr {A B : AppState K} {R : Registered} {W : World K} {req : VerifyRequest}
    {ear : EarClaims K} {tee : TeeType} {componentId : String} {evidence : Bytes} {lifecycle : Option String}
    (appraises : A.appraise R W req = .ok ear)
    (appraised : Appraised A R W req ear tee componentId evidence lifecycle)
    (host : B.hostEvidence W req tee.family = A.hostEvidence W req tee.family)
    (evaluated : evaluate (K := K) R.compiled componentId evidence (some req.nonce) (B.expectedInit tee.family) =
      .ok { componentId, claims := ear.submods })
    (policy : B.enforcePolicy ear.submods tee.family = .ok ()) : B.appraise R W req = .ok ear := by
  rw [← appraises]
  simp only [appraise, okOr, bind, Except.bind, appraised.tee_type, appraised.component, host, appraised.host, evaluated,
    appraised.evaluated, Except.mapError, policy, appraised.policy]

/-- The appraiser's half: with a list it accepts only what its first entry names. -/
theorem PassesOtherwise.leads {A : AppState K} {R : Registered} {W : World K} {req : VerifyRequest} {td : TdReport}
    {list : List String} (faithful : K.json.Faithful) (shipped : Shipped K R) (sized : K.ConfigIdsSized)
    (passing : PassesOtherwise A R W req td) (entries : ∀ entry ∈ list, ConfigIdHex entry)
    (obtains : (A.withConfigIds list).Obtains R W req) : list = [] ∨ Leads td.mrConfigId list := by
  obtain ⟨response, accepted⟩ := obtains
  obtain ⟨ear, appraises, _⟩ := Wire.bind_eq_ok.mp accepted
  obtain ⟨tee, _, _, _, appraised⟩ := AppState.appraise_ok appraises
  obtain ⟨_, named, family⟩ := passing.kind
  cases named.symm.trans appraised.tee_type
  obtain ⟨object, held, parses⟩ := passing.quoted
  obtain ⟨verified, td', appraisal, parses'⟩ := appraised.quoted faithful shipped family held
  cases parses.symm.trans parses'
  obtain ⟨_, _, _, _, _, _, matched⟩ := tdxAppraise_ok appraisal
  cases list with
  | nil => exact .inl rfl
  | cons first rest =>
    obtain ⟨bytes, decodes, length⟩ := (entries first List.mem_cons_self).decodes
    have expected : (A.withConfigIds (first :: rest)).expectedInit .tdx = some bytes := decodes
    rw [expected, Option.all_some, initDataMatches_iff (length.trans (sized _ _ parses).symm)] at matched
    exact .inr (decodes.trans (congrArg some matched.symm))

/-- The host's half: a list led by the config id of the quote changes nothing. -/
theorem PassesOtherwise.unchanged {A : AppState K} {R : Registered} {W : World K} {req : VerifyRequest} {td : TdReport}
    {list : List String} {response : VerifyResponse} (faithful : K.json.Faithful) (shipped : Shipped K R)
    (passing : PassesOtherwise A R W req td) (leads : Leads td.mrConfigId list)
    (accepted : (A.withConfigIds []).verify R W req = .ok response) :
    (A.withConfigIds list).verify R W req = .ok response := by
  obtain ⟨ear, appraises, signs⟩ := Wire.bind_eq_ok.mp accepted
  refine Wire.bind_eq_ok.mpr ⟨ear, ?_, signs⟩
  obtain ⟨tee, componentId, evidence, lifecycle, appraised⟩ := AppState.appraise_ok appraises
  obtain ⟨_, named, family⟩ := passing.kind
  cases named.symm.trans appraised.tee_type
  obtain ⟨object, held, parses⟩ := passing.quoted
  obtain ⟨verified, td', appraisal, parses'⟩ := appraised.quoted faithful shipped family held
  cases parses.symm.trans parses'
  obtain ⟨appraiser, compiled, teeType, _, same⟩ := appraised.ran faithful shipped
  have claims : ∀ init, appraiser.claims K evidence (some req.nonce) init =
      tdxClaims K (teeTypeStr tee) evidence (some req.nonce) init := by
    intro init
    rw [Appraiser.claims_eq teeType, family]
    rfl
  have expected : (A.withConfigIds list).expectedInit .tdx = some td.mrConfigId := leads
  have again := @tdxAppraise_init K _ _ _ (some td.mrConfigId) _ _ appraisal ((initDataMatches_iff rfl).mpr rfl)
  have reported : claimText ear.submods "mr_config_id" = some (hexEncode td.mrConfigId) := by
    rw [family, claims, tdxClaims, appraisal] at same
    exact claimText_again faithful (same "mr_config_id")
  refine AppState.appraise_congr appraises appraised (by rw [family]; rfl) ?_ ?_
  · have before := appraised.evaluated
    rw [family] at before ⊢
    rw [← before, expected]
    have unchanged : appraiser.component K evidence (some req.nonce) (some td.mrConfigId) =
        appraiser.component K evidence (some req.nonce) ((A.withConfigIds []).expectedInit .tdx) := by
      simp only [Appraiser.component, claims, tdxClaims, again, appraisal]
    simp only [evaluate, compiled, okOr, bind, Except.bind, unchanged]
  · have before := appraised.policy
    rw [family] at before ⊢
    have passes := Wire.mapError_eq_ok.mp before
    exact Wire.mapError_eq_ok.mpr (enforceTdxPolicy_ok reported leads.listed passes)

theorem PassesOtherwise.obtains_iff {A : AppState K} {R : Registered} {W : World K} {req : VerifyRequest}
    {td : TdReport} {list : List String} (faithful : K.json.Faithful) (shipped : Shipped K R)
    (sized : K.ConfigIdsSized) (passing : PassesOtherwise A R W req td) (entries : ∀ entry ∈ list, ConfigIdHex entry) :
    (A.withConfigIds list).Obtains R W req ↔ list = [] ∨ Leads td.mrConfigId list := by
  constructor
  · exact passing.leads faithful shipped sized entries
  · rintro (rfl | leads)
    · exact passing.passes
    · obtain ⟨response, accepted⟩ := passing.passes
      exact ⟨response, passing.unchanged faithful shipped leads accepted⟩

/-- The list acts as a set exactly when an entry for the config id, if there is one, stands
first; another order or another entry changes the outcome exactly when it changes whether
the first entry is for the config id. -/
theorem config_ids_set_iff {A : AppState K} {R : Registered} {W : World K} {req : VerifyRequest} {td : TdReport}
    {list : List String} (faithful : K.json.Faithful) (shipped : Shipped K R) (sized : K.ConfigIdsSized)
    (passing : PassesOtherwise A R W req td) (entries : ∀ entry ∈ list, ConfigIdHex entry) :
    (((A.withConfigIds list).Obtains R W req ↔ list = [] ∨ Listed td.mrConfigId list) ↔
        (Listed td.mrConfigId list → Leads td.mrConfigId list)) ∧
      (∀ other, list.Perm other →
        (((A.withConfigIds list).Obtains R W req ↔ (A.withConfigIds other).Obtains R W req) ↔
          (Leads td.mrConfigId list ↔ Leads td.mrConfigId other))) ∧
      (∀ front entry back, list = front ++ back → list ≠ [] → ConfigIdHex entry →
        (((A.withConfigIds list).Obtains R W req → (A.withConfigIds (front ++ entry :: back)).Obtains R W req) ↔
          (Leads td.mrConfigId list → Leads td.mrConfigId (front ++ entry :: back)))) := by
  have obtains := passing.obtains_iff faithful shipped sized entries
  refine ⟨?_, ?_, ?_⟩
  · rw [obtains]
    have empty : Listed td.mrConfigId list → list ≠ [] := by
      rintro ⟨entry, held, _⟩ rfl
      cases held
    constructor
    · intro same listed
      exact (same.mpr (.inr listed)).resolve_left (empty listed)
    · intro led
      exact or_congr_right ⟨Leads.listed, led⟩
  · intro other same
    rw [obtains, passing.obtains_iff faithful shipped sized fun entry held => entries entry (same.mem_iff.mpr held)]
    -- An empty list stays empty in any order, and accepts everything.
    by_cases empty : list = []
    · subst empty
      rw [same.nil_eq]
      exact iff_of_true Iff.rfl Iff.rfl
    · have another : other ≠ [] := by
        rintro rfl
        exact empty same.eq_nil
      simp only [empty, another, false_or]
  · intro front entry back split filled hex
    have others : ∀ other ∈ front ++ entry :: back, ConfigIdHex other := by
      intro other held
      rcases List.mem_append.mp held with before | after
      · exact entries other (split ▸ List.mem_append_left back before)
      · rcases List.mem_cons.mp after with rfl | after
        · exact hex
        · exact entries other (split ▸ List.mem_append_right front after)
    rw [obtains, passing.obtains_iff faithful shipped sized others]
    simp [filled]

end Whitelist

section Second

/-- Quotes of a TD with one config id. -/
def pinnedConfigId : Bytes := List.replicate 48 0xab

def pinnedTdReport (quote : Bytes) : TdReport := { referenceTdReport quote with mrConfigId := pinnedConfigId }

/-- The config id in capital letters. -/
def pinnedEntry : String := String.ofList ((List.replicate 48 ['A', 'B']).flatten)

def otherEntry : String := String.ofList ((List.replicate 48 ['c', 'd']).flatten)

def pinnedEvidence : Value Empty := .object [("quote_b64", .string (standardBase64 [1]))]

def pinnedInjected : Value Empty :=
  .object [("quote_b64", .string (standardBase64 [1])), ("collateral_b64", .string ""), ("now_secs", .int 0)]

def pinnedClaims : Value Empty :=
  .object [
    ("tee_type", .string "tdx"),
    ("verification", .string "passed"),
    ("tcb_status", .string "UpToDate"),
    ("advisory_ids", .array []),
    ("mr_td", .string ""),
    ("mr_seam", .string ""),
    ("mr_signer_seam", .string ""),
    ("mr_config_id", .string (hexEncode pinnedConfigId)),
    ("report_data", .string (hexEncode (resize [1] 64)))]

def refusedClaims : Value Empty :=
  .object [
    ("tee_type", .string "tdx"),
    ("verification", .string "failed"),
    ("error", .string "mr_config_id does not match expected_init_data_hash")]

def pinnedCrates : Crates :=
  { referenceCrates [pinnedEvidence, pinnedInjected, pinnedClaims, refusedClaims] with
    parseQuote := fun quote => .ok (some (pinnedTdReport quote)) }

def pinnedWorld : World pinnedCrates := { referenceWorld pinnedCrates 0 with getCollateral := fun _ _ => .ok () }

def pinnedRequest : VerifyRequest where
  teeType := 4
  nonce := [1]
  evidence := Wire.utf8 (pinnedEvidence.render Empty.elim)
  wasm := some (.wasmComponentId "tdx")

def pinnedState : AppState pinnedCrates := referenceState pinnedCrates none none

def pinnedRegistered : Registered := referenceRegistered pinnedCrates .tdx

theorem pinned_accepted : (pinnedState.withConfigIds []).verify pinnedRegistered pinnedWorld pinnedRequest =
    .ok { ear := "AQ", wasmComponentId := "tdx" } := by
  decide +kernel

theorem pinned_passes : PassesOtherwise pinnedState pinnedRegistered pinnedWorld pinnedRequest (pinnedTdReport [1]) where
  kind := ⟨.tdx, rfl, rfl⟩
  quoted := ⟨[1], by decide, rfl⟩
  passes := ⟨_, pinned_accepted⟩

theorem pinned_faithful : pinnedCrates.json.Faithful := Serde.ofTable_faithful (by decide) (by decide)

theorem pinned_sized : pinnedCrates.ConfigIdsSized := by
  intro quote td parses
  cases parses
  rfl

theorem hexDecode_ofList (digits : List Char) : hexDecode (String.ofList digits) = hexPairs digits :=
  congrArg hexPairs String.toList_ofList

/-- Two hex digits, repeated. -/
theorem configIdHex_of_pair {high low : Char} (high_listed : high.toLower ∈ hexDigits.toList)
    (low_listed : low.toLower ∈ hexDigits.toList) :
    ConfigIdHex (String.ofList (List.replicate 48 [high, low]).flatten) := by
  rw [ConfigIdHex, String.toList_ofList]
  refine ⟨rfl, fun digit held => ?_⟩
  obtain ⟨pair, repeated, member⟩ := List.mem_flatten.mp held
  obtain rfl := List.eq_of_mem_replicate repeated
  simp only [List.mem_cons, List.not_mem_nil, or_false] at member
  rcases member with rfl | rfl
  · exact high_listed
  · exact low_listed

theorem pinned_entries : ∀ entry ∈ [otherEntry, pinnedEntry], ConfigIdHex entry := by
  intro entry held
  simp only [List.mem_cons, List.not_mem_nil, or_false] at held
  rcases held with rfl | rfl
  · exact configIdHex_of_pair (by decide) (by decide)
  · exact configIdHex_of_pair (by decide) (by decide)

/-- The entry for the config id does not help as the second of two. -/
theorem config_id_refused_second :
    PassesOtherwise pinnedState pinnedRegistered pinnedWorld pinnedRequest (pinnedTdReport [1]) ∧
      (∀ entry ∈ [otherEntry, pinnedEntry], ConfigIdHex entry) ∧
      Listed (pinnedTdReport [1]).mrConfigId [otherEntry, pinnedEntry] ∧
      (pinnedState.withConfigIds [pinnedEntry, otherEntry]).verify pinnedRegistered pinnedWorld pinnedRequest =
        .ok { ear := "AQ", wasmComponentId := "tdx" } ∧
      ¬ (pinnedState.withConfigIds [otherEntry, pinnedEntry]).Obtains pinnedRegistered pinnedWorld pinnedRequest := by
  have decodes : hexDecode pinnedEntry = some pinnedConfigId := (hexDecode_ofList _).trans (by decide)
  have differs : hexDecode otherEntry ≠ some pinnedConfigId := fun same =>
    absurd ((hexDecode_ofList _).symm.trans same) (by decide)
  have shipped := referenceRegistered_shipped pinnedCrates .tdx
  refine ⟨pinned_passes, pinned_entries, ⟨pinnedEntry, by simp, decodes⟩, ?_, fun obtains => ?_⟩
  · exact pinned_passes.unchanged pinned_faithful shipped (leads_cons.mpr decodes) pinned_accepted
  · rcases pinned_passes.leads pinned_faithful shipped pinned_sized pinned_entries obtains with empty | leads
    · cases empty
    · exact differs (leads_cons.mp leads)

theorem config_ids_set_iff_second :
    (((pinnedState.withConfigIds [otherEntry, pinnedEntry]).Obtains pinnedRegistered pinnedWorld pinnedRequest ↔
          [otherEntry, pinnedEntry] = [] ∨ Listed (pinnedTdReport [1]).mrConfigId [otherEntry, pinnedEntry]) ↔
        (Listed (pinnedTdReport [1]).mrConfigId [otherEntry, pinnedEntry] →
          Leads (pinnedTdReport [1]).mrConfigId [otherEntry, pinnedEntry])) :=
  (config_ids_set_iff pinned_faithful (referenceRegistered_shipped pinnedCrates .tdx) pinned_sized pinned_passes
    pinned_entries).1

end Second

end UnifiedAttestation.Grpc
