import UnifiedAttestation.Grpc.Replay

/-! What of the claims called host-injected the attester can choose.

The host writes its results into the attester's own evidence object and leaves out
those it has no value for; the appraiser then reads the object by key. A claim is
therefore the host's value where there is one and the attester's own member elsewhere.
-/

set_option autoImplicit false

namespace UnifiedAttestation.Grpc

open Wire (Bytes okOr ensure)
open Json (Value Serde)

variable {K : Crates}

section Written

theorem injectCcaClaims_overlays (result : CcaVerificationResult K) :
    Json.Map.Overlays fun members => injectCcaClaims K members result :=
  ((((((Json.Map.overlays_insertSome _ _).comp (Json.Map.overlays_insertSome _ _)).comp
    (Json.Map.overlays_insertSome _ _)).comp (Json.Map.overlays_insertSome _ _)).comp
    (Json.Map.overlays_insertSome _ _)).comp (Json.Map.overlays_insertSome _ _))

theorem injectCsvClaims_overlays (result : CsvVerificationResult) :
    Json.Map.Overlays fun members => injectCsvClaims K members result :=
  (((((Json.Map.overlays_insertSome _ _).comp (Json.Map.overlays_insertSome _ _)).comp
    (Json.Map.overlays_insertSome _ _)).comp (Json.Map.overlays_insertSome _ _)).comp
    (Json.Map.overlays_insertSome _ _))

theorem injectItrusteeClaims_overlays (result : ItrusteeVerificationResult) :
    Json.Map.Overlays fun members => injectItrusteeClaims K members result :=
  (((((Json.Map.overlays_insertSome _ _).comp (Json.Map.overlays_insertSome _ _)).comp
    (Json.Map.overlays_insertSome _ _)).comp (Json.Map.overlays_insertSome _ _)).comp
    (Json.Map.overlays_insertSome _ _))

/-- The members that carry the hardware evidence. -/
def Family.hardwareKeys : Family → List String
  | .cca => ["cca_token_b64"]
  | .csv => ["csv_evidence_b64"]
  | .itrustee => ["report"]
  | .virtcca => ["evidence", "dev_cert"]
  | .mock | .tdx => []

/-- The claims documented as injected by the host, each with the evidence member the
appraiser takes it from. -/
def Family.injectedClaims : Family → List (String × String)
  | .cca => ccaKeys.map fun key => (key, key)
  | .csv => csvKeys.map fun key => (key, key)
  | .itrustee => [("uuid", "itrustee_uuid"), ("ta_img", "itrustee_ta_img"), ("ta_mem", "itrustee_ta_mem"),
      ("hash_alg", "itrustee_hash_alg"), ("version", "itrustee_version")]
  | .virtcca => [("rim", "virtcca_rim"), ("rpv", "virtcca_rpv"), ("challenge_hex", "virtcca_challenge"),
      ("is_platform", "virtcca_is_platform"), ("platform_sw_components", "virtcca_platform_sw_components")]
  | .mock | .tdx => []

/-- The object under a key of the evidence, decoded. -/
def objectIn (members : Json.Map K.json.Float) (key : String) : Option Bytes :=
  ((Json.Map.get members key).bind Value.asStr).bind fun text => (K.decodeBase64 text).toOption

/-- The report of an iTrustee evidence as JSON. -/
def reportIn (members : Json.Map K.json.Float) : Option (Value K.json.Float) :=
  ((Json.Map.get members "report").bind Value.asStr).bind fun text => (K.json.fromStr text).toOption

/-- What the host writes of those members, from the hardware evidence alone. -/
def AppState.written (A : AppState K) (members : Json.Map K.json.Float) : Family → Json.Map K.json.Float
  | .cca =>
    match A.ccaVerifier.bind fun verifier => (objectIn members "cca_token_b64").bind fun token =>
      (verifier.opened token).toOption with
    | some e => injectCcaClaims K [] (ccaResult K e)
    | none => []
  | .csv =>
    match (objectIn members "csv_evidence_b64").bind fun object => (openCsv (K := K) object).toOption with
    | some opened => injectCsvClaims K [] (csvResult opened.2.2 opened.2.1)
    | none => []
  | .itrustee =>
    match reportIn members with
    | some report => injectItrusteeClaims K [] (itrusteeResult K report)
    | none => []
  | .virtcca | .mock | .tdx => []

theorem AppState.written_congr (A : AppState K) {members members' : Json.Map K.json.Float} {family : Family}
    (same : ∀ key ∈ family.hardwareKeys, Json.Map.get members key = Json.Map.get members' key) :
    A.written members family = A.written members' family := by
  cases family with
  | cca =>
    have token := same "cca_token_b64" (by decide)
    simp only [written, objectIn, token]
  | csv =>
    have object := same "csv_evidence_b64" (by decide)
    simp only [written, objectIn, object]
  | itrustee =>
    have report := same "report" (by decide)
    simp only [written, reportIn, report]
  | virtcca | mock | tdx => rfl

/-- A value that goes through the component is printed and read twice. -/
def delivered (K : Crates) (value : Value K.json.Float) : Value K.json.Float := K.json.again (K.json.again value)

/-- The text of a member, `null` aside. -/
def memberText (members : Json.Map K.json.Float) (key : String) : Option String :=
  (Value.present (Json.Map.get members key)).bind Value.asStr

/-- The attester's own part in a claim: what the appraiser takes from a member that
the host did not write. The iTrustee appraiser looks at the root only if it finds a
uuid there. -/
def attesterPart (written members : Json.Map K.json.Float) (member : String) : Family → Option (Value K.json.Float)
  | .cca | .csv =>
    if (Json.Map.get written member).isSome then none else (Json.Map.get members member).map (delivered K)
  | .itrustee =>
    if (Json.Map.get written member).isSome then none
    else if member = "itrustee_uuid" then some (.string ((memberText members member).getD ""))
    else if (Json.Map.get written "itrustee_uuid").isSome ∨ (memberText members "itrustee_uuid").isSome then
      (memberText members member).map .string
    else none
  | .virtcca => (Value.present (Json.Map.get members member)).map (delivered K)
  | .mock | .tdx => none

/-- Where the host wrote a value nothing is left to the attester. -/
theorem AppState.attesterPart_eq_none (A : AppState K) {members : Json.Map K.json.Float} {family : Family}
    {member : String} {value : Value K.json.Float}
    (held : Json.Map.get (A.written members family) member = some value) (members' : Json.Map K.json.Float) :
    attesterPart (A.written members family) members' member family = none := by
  cases family with
  | cca | csv | itrustee => simp only [attesterPart, held, Option.isSome_some, if_true]
  | virtcca | mock | tdx => cases held

end Written

section Merged

theorem objectIn_of_extract {evidence object : Bytes} {members : Json.Map K.json.Float} {key : String}
    (source : K.json.fromSlice evidence = .ok (.object members))
    (extracted : extractB64Field (K := K) evidence key = .ok object) : objectIn members key = some object := by
  obtain ⟨value, text, read, member, decodes⟩ := extractB64Field_ok.mp extracted
  cases source.symm.trans read
  have held : (Json.Map.get members key).bind Value.asStr = some text := member
  simp [objectIn, held, decodes, Except.toOption]

theorem itrusteeExtractClaims_eq {evidence : Bytes} {members : Json.Map K.json.Float}
    (source : K.json.fromSlice evidence = .ok (.object members)) :
    (itrusteeExtractClaims K evidence).toOption = (reportIn members).map (itrusteeResult K) := by
  have read : K.json.fromSlice evidence = .ok (.object members) := source
  cases text : (Json.Map.get members "report").bind Value.asStr with
  | none =>
    have absent : ((Value.object members : Value K.json.Float).get "report").bind Value.asStr = none := text
    simp [itrusteeExtractClaims, reportIn, read, text, absent, Except.mapError, okOr, bind, Except.bind,
      Except.toOption]
  | some text' =>
    have there : ((Value.object members : Value K.json.Float).get "report").bind Value.asStr = some text' := text
    cases parsed : K.json.fromStr text' with
    | error e =>
      simp [itrusteeExtractClaims, reportIn, read, text, there, parsed, Except.mapError, okOr, bind, Except.bind,
        Except.toOption]
    | ok report =>
      simp [itrusteeExtractClaims, reportIn, read, text, there, parsed, Except.mapError, okOr, bind, Except.bind,
        Except.toOption, itrusteeResult]

/-- The families of the injected claims, with the native verifier where there is one. -/
def AppState.Injects (A : AppState K) : Family → Prop
  | .cca => A.ccaVerifier.isSome = true
  | .csv => A.csvVerifier.isSome = true
  | .itrustee | .virtcca => True
  | .mock | .tdx => False

/-- The object that the component gets: the host's members over the attester's. -/
theorem AppState.hostEvidence_merged {A : AppState K} {W : World K} {req : VerifyRequest} {family : Family}
    {evidence : Bytes} {lifecycle : Option String} {members : Json.Map K.json.Float} (injects : A.Injects family)
    (source : K.json.fromSlice req.evidence = .ok (.object members))
    (host : A.hostEvidence W req family = .ok (evidence, lifecycle)) :
    ∃ merged, evidence = K.json.toVec (.object merged) ∧
      (family = .itrustee → Json.Map.get merged "report" = Json.Map.get members "report") ∧
      ∀ pair ∈ family.injectedClaims,
        Json.Map.get merged pair.2 = (Json.Map.get (A.written members family) pair.2).or (Json.Map.get members pair.2) := by
  cases family with
  | mock | tdx => cases injects
  | cca =>
    obtain ⟨verifier, configured⟩ := Option.isSome_iff_exists.mp injects
    obtain ⟨held, token, e, read, extracted, opened, _, rfl, _⟩ := AppState.ccaEvidence_ok configured host
    cases source.symm.trans read
    refine ⟨_, rfl, (fun other => by cases other), fun pair _ => ?_⟩
    rw [injectCcaClaims_overlays (ccaResult K e)]
    simp [written, configured, objectIn_of_extract source extracted, opened, Except.toOption]
  | csv =>
    obtain ⟨policy, configured⟩ := Option.isSome_iff_exists.mp injects
    cases made : A.csvEvidence W req with
    | error status => simp [hostEvidence, made, Except.map] at host
    | ok bytes =>
      simp only [hostEvidence, made, Except.map, Except.ok.injEq, Prod.mk.injEq] at host
      obtain ⟨held, object, parsed, report, chipId, read, extracted, opened, _, rfl⟩ :=
        AppState.csvEvidence_ok configured made
      cases source.symm.trans read
      refine ⟨_, host.1.symm, (fun other => by cases other), fun pair _ => ?_⟩
      rw [injectCsvClaims_overlays (csvResult chipId report)]
      simp [written, objectIn_of_extract source extracted, opened, Except.toOption]
  | itrustee =>
    have extraction := itrusteeExtractClaims_eq source
    cases claims : itrusteeExtractClaims K req.evidence with
    | error e =>
      -- Without a report to read, the evidence is forwarded as it came.
      rw [claims] at extraction
      have unread : reportIn members = none := by
        cases found : reportIn members with
        | none => rfl
        | some report => simp [found, Except.toOption] at extraction
      simp only [hostEvidence, itrusteeEvidence, parseEvidence, source, claims, Except.mapError, bind, Except.bind,
        Except.map, Except.ok.injEq, Prod.mk.injEq] at host
      refine ⟨members, host.1.symm, fun _ => rfl, fun pair _ => ?_⟩
      simp [written, unread]
    | ok result =>
      rw [claims] at extraction
      simp only [hostEvidence, itrusteeEvidence, parseEvidence, rootObject, source, claims, Except.mapError, bind,
        Except.bind, okOr, Value.asObject, Except.map, Except.ok.injEq, Prod.mk.injEq] at host
      obtain ⟨report, found, rfl⟩ := Option.map_eq_some_iff.mp extraction.symm
      refine ⟨_, host.1.symm, fun _ => ?_, fun pair _ => ?_⟩
      · simp [injectItrusteeClaims, Json.Map.get_insertSome]
      · rw [injectItrusteeClaims_overlays (itrusteeResult K report)]
        simp [written, found]
  | virtcca =>
    simp only [hostEvidence, virtccaEvidence, virtccaExtractClaims, parseEvidence, rootObject, source, Except.mapError,
      bind, Except.bind, okOr, Value.asObject, Except.map, Except.ok.injEq, Prod.mk.injEq] at host
    refine ⟨_, host.1.symm, (fun other => by cases other), fun pair listed => ?_⟩
    -- The host writes none of the members that these claims are read from.
    have untouched : ∀ result : VirtccaVerificationResult,
        Json.Map.get (injectVirtccaClaims K members result) pair.2 = Json.Map.get members pair.2 := by
      intro result
      simp only [Family.injectedClaims, List.mem_cons, List.not_mem_nil, or_false] at listed
      rcases listed with rfl | rfl | rfl | rfl | rfl <;>
        simp [injectVirtccaClaims, Json.Map.get_insertSome, Json.Map.get_insert]
    rw [untouched]
    simp [written]

end Merged

section Claims

/-- What reading back the merged object gives. -/
theorem readBack {merged : Json.Map K.json.Float} {value : Value K.json.Float} (faithful : K.json.Faithful)
    (read : K.json.fromSlice (K.json.toVec (.object merged)) = .ok value) :
    ∃ kept, value = .object kept ∧ ∀ key, Json.Map.get kept key = (Json.Map.get merged key).map K.json.again :=
  faithful.reads read

theorem passing_claim {teeType field label size : String} {keys : List String} {merged : Json.Map K.json.Float}
    {expected : Option Bytes} (faithful : K.json.Faithful)
    (clean : (passingClaims K teeType field label size keys (K.json.toVec (.object merged)) expected).get "error" = none)
    {key : String} (listed : key ∈ keys) (fresh : key ∉ ["tee_type", "verification", "nonce_bound", size]) :
    (passingClaims K teeType field label size keys (K.json.toVec (.object merged)) expected).get key =
      (Json.Map.get merged key).map K.json.again := by
  obtain ⟨value, _, _, _, read, shape, _⟩ := passingClaims_passed clean
  obtain ⟨kept, rfl, each⟩ := readBack faithful read
  simp only [List.mem_cons, List.not_mem_nil, or_false, not_or] at fresh
  obtain ⟨notTee, notVerification, notBound, notSize⟩ := fresh
  rw [shape, Value.get, passthrough_get, if_pos listed]
  simp [Value.get, each, Ne.symm notTee, Ne.symm notVerification, Ne.symm notBound, Ne.symm notSize]

/-- A text, truth value or whole member read from the printed evidence, as it is
delivered in the claims. -/
theorem optional_delivered {β : Type} {read : Value K.json.Float → Option β} {write : β → Value K.json.Float}
    (faithful : K.json.Faithful)
    (kept : ∀ value result, read (K.json.again value) = some result → K.json.again (write result) = delivered K value)
    {field : Option (Value K.json.Float)} {result : Option β}
    (optional : Value.optional read (field.map K.json.again) = some result) :
    (result.map write).map K.json.again = (Value.present field).map (delivered K) := by
  have found := Value.optional_eq_some.mp optional
  rw [faithful.present_again] at found
  cases held : Value.present field with
  | none =>
    rw [held] at found
    cases result with
    | none => rfl
    | some result => cases found
  | some value =>
    rw [held] at found
    cases result with
    | none => cases found
    | some result =>
      have reads : read (K.json.again value) = some result := (Option.some.inj found).symm
      simp [kept value result reads]

theorem text_delivered (value : Value K.json.Float) (text : String)
    (read : (K.json.again value).asStr = some text) : K.json.again (.string text) = delivered K value := by
  rw [delivered, Value.asStr_eq_some.mp read]

theorem truth_delivered (value : Value K.json.Float) (truth : Bool)
    (read : (K.json.again value).asBool = some truth) : K.json.again (.bool truth) = delivered K value := by
  rw [delivered, Value.asBool_eq_some.mp read]

theorem value_delivered (value result : Value K.json.Float) (read : some (K.json.again value) = some result) :
    K.json.again (id result) = delivered K value := by
  rw [delivered, Option.some.inj read, id]

theorem virtcca_claim {teeType : String} {merged : Json.Map K.json.Float} {expected : Option Bytes}
    (faithful : K.json.Faithful)
    (clean : (virtccaClaims K teeType (K.json.toVec (.object merged)) expected).get "error" = none)
    {pair : String × String} (listed : pair ∈ Family.virtcca.injectedClaims) :
    ((virtccaClaims K teeType (K.json.toVec (.object merged)) expected).get pair.1).map K.json.again =
      (Value.present (Json.Map.get merged pair.2)).map (delivered K) := by
  obtain ⟨parsed, readAs⟩ := virtccaClaims_passed clean
  obtain ⟨value, read, shape⟩ := Serde.fromSliceAs_eq_ok.mp readAs
  obtain ⟨kept, rfl, each⟩ := readBack faithful read
  -- the hardware evidence and the nonce come before the members of the claims
  iterate 5 obtain ⟨_, _, shape⟩ := Option.bind_eq_some_iff.mp shape
  obtain ⟨rim, rimRead, shape⟩ := Option.bind_eq_some_iff.mp shape
  obtain ⟨rpv, rpvRead, shape⟩ := Option.bind_eq_some_iff.mp shape
  obtain ⟨challenge, challengeRead, shape⟩ := Option.bind_eq_some_iff.mp shape
  obtain ⟨isPlatform, isPlatformRead, shape⟩ := Option.bind_eq_some_iff.mp shape
  obtain ⟨components, componentsRead, shape⟩ := Option.bind_eq_some_iff.mp shape
  cases shape
  rw [each] at rimRead rpvRead challengeRead isPlatformRead componentsRead
  simp only [Family.injectedClaims, List.mem_cons, List.not_mem_nil, or_false] at listed
  rcases listed with rfl | rfl | rfl | rfl | rfl
  · rw [← optional_delivered faithful text_delivered rimRead]
    simp [virtccaClaims, readAs, Value.get, Json.Map.get_insertSome]
  · rw [← optional_delivered faithful text_delivered rpvRead]
    simp [virtccaClaims, readAs, Value.get, Json.Map.get_insertSome]
  · rw [← optional_delivered faithful text_delivered challengeRead]
    simp [virtccaClaims, readAs, Value.get, Json.Map.get_insertSome]
  · rw [← optional_delivered faithful truth_delivered isPlatformRead]
    simp [virtccaClaims, readAs, Value.get, Json.Map.get_insertSome]
  · rw [← optional_delivered faithful value_delivered componentsRead]
    simp [virtccaClaims, readAs, Value.get, Json.Map.get_insertSome]

/-- The measurement under the name of its evidence member. -/
def ItrusteeVerificationResult.text (found : ItrusteeVerificationResult) (member : String) : Option String :=
  if member = "itrustee_uuid" then found.uuid
  else if member = "itrustee_ta_img" then found.taImg
  else if member = "itrustee_ta_mem" then found.taMem
  else if member = "itrustee_hash_alg" then found.hashAlg
  else if member = "itrustee_version" then found.version
  else none

/-- What the report tells about a measurement. -/
def reportText (members : Json.Map K.json.Float) (member : String) : Option String :=
  (reportIn members).bind fun report => (itrusteeResult K report).text member

theorem injectItrusteeClaims_get (result : ItrusteeVerificationResult) {pair : String × String}
    (listed : pair ∈ Family.itrustee.injectedClaims) :
    Json.Map.get (injectItrusteeClaims K [] result) pair.2 = (result.text pair.2).map .string := by
  simp only [Family.injectedClaims, List.mem_cons, List.not_mem_nil, or_false] at listed
  rcases listed with rfl | rfl | rfl | rfl | rfl <;>
    simp [injectItrusteeClaims, Json.Map.get_insertSome, ItrusteeVerificationResult.text]

theorem written_itrustee (A : AppState K) (members : Json.Map K.json.Float) {pair : String × String}
    (listed : pair ∈ Family.itrustee.injectedClaims) :
    Json.Map.get (A.written members .itrustee) pair.2 = (reportText members pair.2).map .string := by
  cases found : reportIn members with
  | none => simp only [AppState.written, reportText, found, Json.Map.get_nil, Option.bind_none, Option.map_none]
  | some report =>
    simp only [AppState.written, reportText, found, Option.bind_some]
    exact injectItrusteeClaims_get (itrusteeResult K report) listed

theorem memberText_merged {merged members : Json.Map K.json.Float} {key : String} {told : Option String}
    (here : Json.Map.get merged key = (told.map Value.string).or (Json.Map.get members key)) :
    memberText merged key = told.or (memberText members key) := by
  cases told with
  | none => rw [memberText, here]; rfl
  | some text => rw [memberText, here]; rfl

theorem memberText_again {merged kept : Json.Map K.json.Float} {key : String} (faithful : K.json.Faithful)
    (each : Json.Map.get kept key = (Json.Map.get merged key).map K.json.again) :
    memberText kept key = memberText merged key := by
  rw [memberText, each, faithful.present_again, memberText]
  cases Value.present (Json.Map.get merged key) with
  | none => rfl
  | some value => exact faithful.again_asStr value

/-- The text of a claim: from the root when there is a uuid, else from the report. -/
def claimedText (merged members : Json.Map K.json.Float) (member : String) : Option String :=
  if (memberText merged "itrustee_uuid").isSome then memberText merged member
  else if member = "itrustee_uuid" then some ((reportText members member).getD "")
  else reportText members member

theorem optional_asStr {members : Json.Map K.json.Float} {key : String} {text : Option String}
    (read : Value.optional Value.asStr (Json.Map.get members key) = some text) : text = memberText members key := by
  have found := Value.optional_eq_some.mp read
  rw [memberText]
  cases held : Value.present (Json.Map.get members key) with
  | none =>
    rw [held] at found
    simpa using found
  | some value =>
    rw [held] at found
    cases text with
    | none => cases found
    | some text => exact Option.some.inj found

theorem itrusteeClaims_get {teeType : String} {evidence : Bytes} {expected : Option Bytes} {parsed : ItrusteeEvidence}
    (read : K.json.fromSliceAs readItrusteeEvidence evidence = .ok parsed) {pair : String × String}
    (listed : pair ∈ Family.itrustee.injectedClaims) :
    (itrusteeClaims K teeType evidence expected).get pair.1 =
      if pair.2 = "itrustee_uuid" then some (.string ((itrusteeMeasurements K parsed).uuid.getD ""))
      else ((itrusteeMeasurements K parsed).text pair.2).map .string := by
  simp only [itrusteeClaims, read, Value.get]
  generalize itrusteeMeasurements K parsed = found
  simp only [Family.injectedClaims, List.mem_cons, List.not_mem_nil, or_false] at listed
  rcases listed with rfl | rfl | rfl | rfl | rfl <;>
    simp [Json.Map.get_insertSome, ItrusteeVerificationResult.text]

/-- The members at the root as measurements. -/
def ItrusteeEvidence.root (parsed : ItrusteeEvidence) : ItrusteeVerificationResult where
  uuid := parsed.itrusteeUuid
  taImg := parsed.itrusteeTaImg
  taMem := parsed.itrusteeTaMem
  hashAlg := parsed.itrusteeHashAlg
  version := parsed.itrusteeVersion

theorem itrusteeMeasurements_uuid {parsed : ItrusteeEvidence} {uuid : String} (held : parsed.itrusteeUuid = some uuid) :
    itrusteeMeasurements K parsed = parsed.root := by
  simp only [itrusteeMeasurements, held, ItrusteeEvidence.root]

theorem itrusteeMeasurements_report {parsed : ItrusteeEvidence} (absent : parsed.itrusteeUuid = none) :
    itrusteeMeasurements K parsed =
      { itrusteeResult K (Value.orNull (K.json.fromStr parsed.report)) with
        uuid := some ((payloadText K (Value.orNull (K.json.fromStr parsed.report)) "uuid").getD "") } := by
  simp only [itrusteeMeasurements, absent]

theorem readItrusteeEvidence_root {kept : Json.Map K.json.Float} {parsed : ItrusteeEvidence}
    (shape : readItrusteeEvidence (.object kept) = some parsed) {pair : String × String}
    (listed : pair ∈ Family.itrustee.injectedClaims) : parsed.root.text pair.2 = memberText kept pair.2 := by
  iterate 3 obtain ⟨_, _, shape⟩ := Option.bind_eq_some_iff.mp shape
  obtain ⟨uuid, uuidRead, shape⟩ := Option.bind_eq_some_iff.mp shape
  obtain ⟨taImg, taImgRead, shape⟩ := Option.bind_eq_some_iff.mp shape
  obtain ⟨taMem, taMemRead, shape⟩ := Option.bind_eq_some_iff.mp shape
  obtain ⟨hashAlg, hashAlgRead, shape⟩ := Option.bind_eq_some_iff.mp shape
  obtain ⟨version, versionRead, shape⟩ := Option.bind_eq_some_iff.mp shape
  cases shape
  simp only [Family.injectedClaims, List.mem_cons, List.not_mem_nil, or_false] at listed
  rcases listed with rfl | rfl | rfl | rfl | rfl
  · exact optional_asStr uuidRead
  · exact optional_asStr taImgRead
  · exact optional_asStr taMemRead
  · exact optional_asStr hashAlgRead
  · exact optional_asStr versionRead

theorem readItrusteeEvidence_report {kept : Json.Map K.json.Float} {parsed : ItrusteeEvidence}
    (shape : readItrusteeEvidence (.object kept) = some parsed) :
    (Json.Map.get kept "report").bind Value.asStr = some parsed.report := by
  obtain ⟨report, held, rest⟩ := Option.bind_eq_some_iff.mp shape
  iterate 7 obtain ⟨_, _, rest⟩ := Option.bind_eq_some_iff.mp rest
  cases rest
  exact held

theorem itrusteeResult_text (members : Json.Map K.json.Float) (member : String) :
    (itrusteeResult K ((reportIn members).getD .null)).text member = reportText members member := by
  rw [reportText]
  cases reportIn members with
  | none => simp [ItrusteeVerificationResult.text, itrusteeResult, payloadText, Value.get]
  | some report => rfl

theorem itrustee_claim {teeType : String} {merged members : Json.Map K.json.Float} {expected : Option Bytes}
    (faithful : K.json.Faithful) (sameReport : Json.Map.get merged "report" = Json.Map.get members "report")
    (clean : (itrusteeClaims K teeType (K.json.toVec (.object merged)) expected).get "error" = none)
    {pair : String × String} (listed : pair ∈ Family.itrustee.injectedClaims) :
    (itrusteeClaims K teeType (K.json.toVec (.object merged)) expected).get pair.1 =
      (claimedText merged members pair.2).map .string := by
  obtain ⟨parsed, readAs⟩ := itrusteeClaims_passed clean
  obtain ⟨value, read, shape⟩ := Serde.fromSliceAs_eq_ok.mp readAs
  obtain ⟨kept, rfl, each⟩ := readBack faithful read
  have root : ∀ pair ∈ Family.itrustee.injectedClaims, parsed.root.text pair.2 = memberText merged pair.2 := by
    intro pair listed
    rw [readItrusteeEvidence_root shape listed, memberText_again faithful (each pair.2)]
  have uuid : parsed.itrusteeUuid = memberText merged "itrustee_uuid" := root ("uuid", "itrustee_uuid") (by decide)
  -- the report that the appraiser parses is the one the host has parsed
  have reportAgain : Value.orNull (K.json.fromStr parsed.report) = (reportIn members).getD .null := by
    have held := readItrusteeEvidence_report shape
    rw [each, sameReport] at held
    cases there : Json.Map.get members "report" with
    | none => simp [there] at held
    | some original =>
      rw [there, Option.map_some, Option.bind_some, faithful.again_asStr] at held
      simp only [reportIn, there, Option.bind_some, held]
      cases K.json.fromStr parsed.report <;> rfl
  rw [itrusteeClaims_get readAs listed]
  cases present : memberText merged "itrustee_uuid" with
  | some text =>
    rw [itrusteeMeasurements_uuid (uuid.trans present), claimedText, present, Option.isSome_some, if_pos rfl]
    by_cases isUuid : pair.2 = "itrustee_uuid"
    · have held : parsed.root.uuid = some text := uuid.trans present
      rw [if_pos isUuid, isUuid, present, held]
      rfl
    · rw [if_neg isUuid, root pair listed]
  | none =>
    rw [itrusteeMeasurements_report (uuid.trans present), reportAgain, claimedText, present]
    by_cases isUuid : pair.2 = "itrustee_uuid"
    · rw [if_pos isUuid, isUuid, ← itrusteeResult_text]
      rfl
    · rw [if_neg isUuid, ← itrusteeResult_text]
      simp [ItrusteeVerificationResult.text, isUuid]

theorem passing_part {written members merged : Json.Map K.json.Float} {key : String}
    (here : Json.Map.get merged key = (Json.Map.get written key).or (Json.Map.get members key)) :
    ((Json.Map.get merged key).map K.json.again).map K.json.again =
      ((Json.Map.get written key).map (delivered K)).or
        (if (Json.Map.get written key).isSome then none else (Json.Map.get members key).map (delivered K)) := by
  rw [here]
  cases Json.Map.get written key with
  | none =>
    cases Json.Map.get members key with
    | none => rfl
    | some value => rfl
  | some value => rfl

theorem itrustee_part {merged members : Json.Map K.json.Float} (A : AppState K) (faithful : K.json.Faithful)
    (here : ∀ pair ∈ Family.itrustee.injectedClaims, Json.Map.get merged pair.2 =
      (Json.Map.get (A.written members .itrustee) pair.2).or (Json.Map.get members pair.2))
    {pair : String × String} (listed : pair ∈ Family.itrustee.injectedClaims) :
    ((claimedText merged members pair.2).map Value.string).map K.json.again =
      ((Json.Map.get (A.written members .itrustee) pair.2).map (delivered K)).or
        (attesterPart (A.written members .itrustee) members pair.2 .itrustee) := by
  have merges : ∀ pair ∈ Family.itrustee.injectedClaims,
      memberText merged pair.2 = (reportText members pair.2).or (memberText members pair.2) := by
    intro pair listed
    exact memberText_merged (by rw [here pair listed, written_itrustee A members listed])
  have uuid : memberText merged "itrustee_uuid" =
      (reportText members "itrustee_uuid").or (memberText members "itrustee_uuid") :=
    merges ("uuid", "itrustee_uuid") (by decide)
  have uuidWritten : Json.Map.get (A.written members .itrustee) "itrustee_uuid" =
      (reportText members "itrustee_uuid").map .string :=
    @written_itrustee K A members ("uuid", "itrustee_uuid") (by decide)
  have text : ∀ text : String, K.json.again (.string text) = .string text := faithful.again_string
  simp only [attesterPart, claimedText, merges pair listed, uuid, uuidWritten, written_itrustee A members listed,
    Option.isSome_map, Option.isSome_or, Bool.or_eq_true]
  cases told : reportText members pair.2 with
  | some value =>
    -- the host wrote the member, and the report tells the same without a uuid
    by_cases isUuid : pair.2 = "itrustee_uuid"
    · rw [isUuid] at told
      simp [told, text, delivered]
    · simp [text, delivered, isUuid]
  | none =>
    by_cases isUuid : pair.2 = "itrustee_uuid"
    · rw [isUuid] at told ⊢
      cases memberText members "itrustee_uuid" <;> simp [told, text]
    · by_cases consulted : (reportText members "itrustee_uuid").isSome = true ∨
          (memberText members "itrustee_uuid").isSome = true
      · cases memberText members pair.2 <;> simp [isUuid, consulted, text]
      · simp [isUuid, consulted]

/-- A claim called host-injected is the host's value, or the attester's part. -/
theorem Appraised.injected {A : AppState K} {R : Registered} {W : World K} {req : VerifyRequest} {ear : EarClaims K}
    {tee : TeeType} {componentId : String} {evidence : Bytes} {lifecycle : Option String}
    {members : Json.Map K.json.Float} (faithful : K.json.Faithful) (shipped : Shipped K R)
    (injects : A.Injects tee.family) (source : K.json.fromSlice req.evidence = .ok (.object members))
    (appraised : Appraised A R W req ear tee componentId evidence lifecycle) {pair : String × String}
    (listed : pair ∈ tee.family.injectedClaims) :
    ear.submods.get pair.1 = ((Json.Map.get (A.written members tee.family) pair.2).map (delivered K)).or
      (attesterPart (A.written members tee.family) members pair.2 tee.family) := by
  obtain ⟨merged, rfl, sameReport, here⟩ := AppState.hostEvidence_merged injects source appraised.host
  obtain ⟨clean, each⟩ := appraised.shipped faithful shipped
  rw [each]
  cases family : tee.family with
  | mock | tdx =>
    rw [family] at injects
    cases injects
  | cca =>
    rw [family] at clean listed here
    obtain ⟨key, held, rfl⟩ := List.mem_map.mp listed
    have fresh : key ∉ ["tee_type", "verification", "nonce_bound", "token_size"] := by
      revert key
      decide
    rw [Family.claims, ccaClaims, passing_claim faithful clean held fresh]
    exact passing_part (here _ listed)
  | csv =>
    rw [family] at clean listed here
    obtain ⟨key, held, rfl⟩ := List.mem_map.mp listed
    have fresh : key ∉ ["tee_type", "verification", "nonce_bound", "evidence_size"] := by
      revert key
      decide
    rw [Family.claims, csvClaims, passing_claim faithful clean held fresh]
    exact passing_part (here _ listed)
  | itrustee =>
    rw [family] at clean listed here
    rw [Family.claims, itrustee_claim faithful (sameReport family) clean listed]
    exact itrustee_part A faithful here listed
  | virtcca =>
    rw [family] at clean listed here
    rw [Family.claims, virtcca_claim faithful clean listed, here _ listed]
    rfl

end Claims

section Chosen

/-- Of two requests answered with an EAR on the same hardware evidence, the claims
called host-injected agree exactly when the attester's parts in them do. -/
theorem injected_claims_eq_iff (faithful : K.json.Faithful) {A : AppState K} {R R' : Registered} {W W' : World K}
    {req req' : VerifyRequest} {ear ear' : EarClaims K} {tee : TeeType} {members members' : Json.Map K.json.Float}
    (injects : A.Injects tee.family) (shipped : Shipped K R) (alsoShipped : Shipped K R')
    (kind : TeeType.tryFrom req.teeType = some tee) (sameKind : req'.teeType = req.teeType)
    (source : K.json.fromSlice req.evidence = .ok (.object members))
    (source' : K.json.fromSlice req'.evidence = .ok (.object members'))
    (sameHardware : ∀ key ∈ tee.family.hardwareKeys, Json.Map.get members key = Json.Map.get members' key)
    (accepted : A.appraise R W req = .ok ear) (alsoAccepted : A.appraise R' W' req' = .ok ear') :
    (∀ pair ∈ tee.family.injectedClaims, ear.submods.get pair.1 = ear'.submods.get pair.1) ↔
      ∀ pair ∈ tee.family.injectedClaims,
        attesterPart (A.written members tee.family) members pair.2 tee.family =
          attesterPart (A.written members' tee.family) members' pair.2 tee.family := by
  obtain ⟨found, _, _, _, appraised⟩ := AppState.appraise_ok accepted
  obtain ⟨found', _, _, _, appraised'⟩ := AppState.appraise_ok alsoAccepted
  cases kind.symm.trans appraised.tee_type
  cases (sameKind ▸ kind).symm.trans appraised'.tee_type
  have sameWritten := A.written_congr sameHardware
  apply forall₂_congr
  intro pair listed
  rw [appraised.injected faithful shipped injects source listed,
    appraised'.injected faithful alsoShipped injects source' listed, ← sameWritten]
  constructor
  · intro same
    cases held : Json.Map.get (A.written members tee.family) pair.2 with
    | none => simpa only [held, Option.map_none, Option.none_or] using same
    | some value => rw [A.attesterPart_eq_none held, A.attesterPart_eq_none held]
  · intro same
    rw [same]

end Chosen

section Claimed

/-- VirtCCA evidence with a realm measurement of the attester's choice. -/
def claimedMembers (rim : String) : Json.Map Empty := [
  ("evidence", .array [.int 1]),
  ("dev_cert", .array [.int 2]),
  ("nonce", .string (urlSafeBase64 [7])),
  ("virtcca_rim", .string rim)]

def claimedInjected (rim : String) : Value Empty :=
  .object (claimedMembers rim ++ [("virtcca_token_size", .int 1), ("virtcca_cert_size", .int 1)])

def claimedClaims (rim : String) : Value Empty :=
  .object [
    ("tee_type", .string "virtcca"),
    ("verification", .string "passed"),
    ("nonce_bound", .bool true),
    ("token_size", .int 1),
    ("cert_size", .int 1),
    ("rim", .string rim)]

def claimedCrates : Crates :=
  referenceCrates [.object (claimedMembers "aa"), .object (claimedMembers "bb"), claimedInjected "aa", claimedInjected "bb",
    claimedClaims "aa", claimedClaims "bb"]

instance : DecidableEq claimedCrates.json.Float := inferInstanceAs (DecidableEq Empty)

def claimedRequest (rim : String) : VerifyRequest where
  teeType := 9
  nonce := [7]
  evidence := Wire.utf8 ((Value.object (claimedMembers rim)).render Empty.elim)
  wasm := some (.wasmComponentId "virtcca")

def claimedState : AppState claimedCrates := referenceState claimedCrates none none

def claimedRegistered : Registered := referenceRegistered claimedCrates .virtcca

def claimedAppraisal (rim : String) : Except Status (EarClaims claimedCrates) :=
  claimedState.appraise claimedRegistered (referenceWorld claimedCrates 0) (claimedRequest rim)

theorem claimedAppraisal_ok (rim : String) (known : rim = "aa" ∨ rim = "bb") :
    ∃ ear, claimedAppraisal rim = .ok ear ∧ ear.submods.get "rim" = some (.string rim) := by
  have told : (claimedAppraisal rim).toOption.bind (fun ear => (ear.submods.get "rim").bind Value.asStr) =
      some rim := by
    rcases known with rfl | rfl
    · decide
    · decide
  obtain ⟨ear, appraised, text⟩ := Option.bind_eq_some_iff.mp told
  obtain ⟨value, held, read⟩ := Option.bind_eq_some_iff.mp text
  rw [Value.asStr_eq_some.mp read] at held
  cases result : claimedAppraisal rim with
  | error status => simp [result, Except.toOption] at appraised
  | ok issued =>
    rw [result] at appraised
    cases appraised
    exact ⟨ear, rfl, held⟩

theorem claimedMembers_read (rim : String) (known : rim = "aa" ∨ rim = "bb") :
    claimedCrates.json.fromSlice (claimedRequest rim).evidence = .ok (.object (claimedMembers rim)) := by
  rcases known with rfl | rfl
  · decide
  · decide

/-- Two requests that differ only in a root member give EARs with different realm
measurements. -/
theorem realm_measurement_claimed :
    ∃ ear ear' : EarClaims claimedCrates,
      claimedAppraisal "aa" = .ok ear ∧ claimedAppraisal "bb" = .ok ear' ∧
      (claimedRequest "aa").teeType = (claimedRequest "bb").teeType ∧
      (claimedRequest "aa").nonce = (claimedRequest "bb").nonce ∧
      (claimedRequest "aa").wasm = (claimedRequest "bb").wasm ∧
      claimedCrates.json.fromSlice (claimedRequest "aa").evidence = .ok (.object (claimedMembers "aa")) ∧
      claimedCrates.json.fromSlice (claimedRequest "bb").evidence = .ok (.object (claimedMembers "bb")) ∧
      (∀ key ∈ Family.virtcca.hardwareKeys,
        Json.Map.get (claimedMembers "aa") key = Json.Map.get (claimedMembers "bb") key) ∧
      ear.submods.get "rim" ≠ ear'.submods.get "rim" := by
  obtain ⟨ear, appraised, rim⟩ := claimedAppraisal_ok "aa" (.inl rfl)
  obtain ⟨ear', appraised', rim'⟩ := claimedAppraisal_ok "bb" (.inr rfl)
  refine ⟨ear, ear', appraised, appraised', rfl, rfl, rfl, claimedMembers_read "aa" (.inl rfl),
    claimedMembers_read "bb" (.inr rfl), by decide, ?_⟩
  intro same
  rw [rim, rim'] at same
  have text : "aa" = "bb" := Value.string.inj (Option.some.inj same)
  exact absurd text (by decide)

theorem injected_claims_eq_iff_realm_measurement :
    ∃ ear ear' : EarClaims claimedCrates,
      claimedAppraisal "aa" = .ok ear ∧ claimedAppraisal "bb" = .ok ear' ∧
      ((∀ pair ∈ Family.virtcca.injectedClaims, ear.submods.get pair.1 = ear'.submods.get pair.1) ↔
        ∀ pair ∈ Family.virtcca.injectedClaims,
          attesterPart (claimedState.written (claimedMembers "aa") .virtcca) (claimedMembers "aa") pair.2 .virtcca =
            attesterPart (claimedState.written (claimedMembers "bb") .virtcca) (claimedMembers "bb") pair.2
              .virtcca) := by
  obtain ⟨ear, appraised, _⟩ := claimedAppraisal_ok "aa" (.inl rfl)
  obtain ⟨ear', appraised', _⟩ := claimedAppraisal_ok "bb" (.inr rfl)
  have faithful : claimedCrates.json.Faithful := Serde.ofTable_faithful (by decide) (by decide)
  have shipped : Shipped claimedCrates claimedRegistered := referenceRegistered_shipped claimedCrates .virtcca
  have injects : claimedState.Injects (TeeType.family .virtcca) := trivial
  have sameHardware : ∀ key ∈ (TeeType.family .virtcca).hardwareKeys,
      Json.Map.get (claimedMembers "aa") key = Json.Map.get (claimedMembers "bb") key := by decide
  have kind : TeeType.tryFrom (claimedRequest "aa").teeType = some .virtcca := rfl
  have sameKind : (claimedRequest "bb").teeType = (claimedRequest "aa").teeType := rfl
  exact ⟨ear, ear', appraised, appraised',
    injected_claims_eq_iff faithful injects shipped shipped kind sameKind (claimedMembers_read "aa" (.inl rfl))
      (claimedMembers_read "bb" (.inr rfl)) sameHardware appraised appraised'⟩

end Claimed

end UnifiedAttestation.Grpc
