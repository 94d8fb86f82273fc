import UnifiedAttestation.Attester.Evidence
import UnifiedAttestation.Grpc.Influence

/-! Shapes of the JSON evidence of iTrustee and VirtCCA.

The attester adds its nonce to the members of the collected object, the host adds what it
has verified, and both print what the next one reads. The shape that an appraiser needs
lasts all the way, and with the nonce in its place the claims have passed.
-/

set_option autoImplicit false

namespace UnifiedAttestation.Protocol

open Wire (Bytes)
open Json (Value Serde depthMembers)
open Grpc

section Reading
variable {J : Serde}

/-- The field is missing, `null`, or reads. -/
def FieldReads {β : Type} (read : Value J.Float → Option β) (field : Option (Value J.Float)) : Prop :=
  ∀ value, Value.present field = some value → ∃ result, read value = some result

theorem FieldReads.optional {β : Type} {read : Value J.Float → Option β} {field : Option (Value J.Float)}
    (readable : FieldReads read field) : ∃ result, Value.optional read field = some result := by
  cases held : Value.present field with
  | none => exact ⟨none, Value.optional_eq_some.mpr (by rw [held]; rfl)⟩
  | some value =>
    obtain ⟨result, reads⟩ := readable value held
    exact ⟨some result, Value.optional_eq_some.mpr (by rw [held, Option.map_some, Option.map_some, reads])⟩

/-- Being printed and read again changes nothing about that. -/
theorem FieldReads.again {β : Type} {read : Value J.Float → Option β} {field : Option (Value J.Float)}
    (faithful : J.Faithful) (blind : ∀ value, read (J.again value) = read value) (readable : FieldReads read field) :
    FieldReads read (field.map J.again) := by
  intro value held
  rw [faithful.present_again] at held
  obtain ⟨before, there, rfl⟩ := Option.map_eq_some_iff.mp held
  rw [blind]
  exact readable before there

theorem FieldReads.text (text : Option String) {field : Option (Value J.Float)} (readable : FieldReads Value.asStr field) :
    FieldReads Value.asStr ((text.map Value.string).or field) := by
  cases text with
  | none => exact readable
  | some said =>
    intro value held
    cases held
    exact ⟨said, rfl⟩

end Reading

section Shapes
variable {K : Crates}

/-- The JSON of iTrustee can be appraised. -/
structure ItrusteeShaped (members : Json.Map K.json.Float) : Prop where
  report : ∃ report, Json.Map.get members "report" = some (.string report)
  imaLog : FieldReads (J := K.json) Value.asBytes (Json.Map.get members "ima_log")
  texts : ∀ key ∈ ["itrustee_uuid", "itrustee_ta_img", "itrustee_ta_mem", "itrustee_hash_alg", "itrustee_version"],
    FieldReads (J := K.json) Value.asStr (Json.Map.get members key)

/-- The JSON of VirtCCA can be appraised. -/
structure VirtccaShaped (members : Json.Map K.json.Float) : Prop where
  evidence : ∃ value bytes, Json.Map.get members "evidence" = some value ∧ value.asBytes = some bytes
  devCert : ∃ value bytes, Json.Map.get members "dev_cert" = some value ∧ value.asBytes = some bytes
  logs : ∀ key ∈ ["ima_log", "event_log"], FieldReads (J := K.json) Value.asBytes (Json.Map.get members key)
  texts : ∀ key ∈ ["virtcca_rim", "virtcca_rpv", "virtcca_challenge"],
    FieldReads (J := K.json) Value.asStr (Json.Map.get members key)
  isPlatform : FieldReads (J := K.json) Value.asBool (Json.Map.get members "virtcca_is_platform")

/-- A shape that lasts when members are printed and read again, and when they take in a nonce. -/
structure Lasting (Shaped : Json.Map K.json.Float → Prop) : Prop where
  again : ∀ members kept, Shaped members →
    (∀ key, Json.Map.get kept key = (Json.Map.get members key).map K.json.again) → Shaped kept
  nonce : ∀ members nonce, Shaped members → Shaped (Json.Map.insert members "nonce" nonce)

/-- Members on their way to the appraiser. -/
structure Ready (Shaped : Json.Map K.json.Float → Prop) (nonce : Bytes) (members : Json.Map K.json.Float) : Prop where
  shaped : Shaped members
  fresh : Json.Map.get members "nonce" = some (.string (K.encodeBase64Url nonce))
  flat : depthMembers members ≤ 100

theorem Ready.again {Shaped : Json.Map K.json.Float → Prop} {nonce : Bytes} {members : Json.Map K.json.Float}
    (faithful : K.json.Faithful) (readsBack : K.json.ReadsBack) (lasting : Lasting Shaped)
    (ready : Ready Shaped nonce members) :
    ∃ kept, K.json.fromSlice (K.json.toVec (.object members)) = .ok (.object kept) ∧ Ready Shaped nonce kept := by
  obtain ⟨kept, read, each, depth⟩ := faithful.readBack readsBack (Nat.lt_of_le_of_lt ready.flat (by decide))
  refine ⟨kept, read, lasting.again members kept ready.shaped each, ?_, Nat.le_trans depth ready.flat⟩
  rw [each, ready.fresh, Option.map_some, faithful.again_string]

theorem ItrusteeShaped.again {members kept : Json.Map K.json.Float} (faithful : K.json.Faithful)
    (shaped : ItrusteeShaped members)
    (each : ∀ key, Json.Map.get kept key = (Json.Map.get members key).map K.json.again) : ItrusteeShaped kept where
  report := by
    obtain ⟨report, told⟩ := shaped.report
    exact ⟨report, by rw [each, told, Option.map_some, faithful.again_string]⟩
  imaLog := by
    rw [each]
    exact shaped.imaLog.again faithful faithful.again_asBytes
  texts key listed := by
    rw [each]
    exact (shaped.texts key listed).again faithful faithful.again_asStr

theorem ItrusteeShaped.nonce {members : Json.Map K.json.Float} (shaped : ItrusteeShaped members)
    (nonce : Value K.json.Float) : ItrusteeShaped (Json.Map.insert members "nonce" nonce) where
  report := by
    obtain ⟨report, told⟩ := shaped.report
    exact ⟨report, by simp [Json.Map.get_insert, told]⟩
  imaLog := by
    simpa [Json.Map.get_insert] using shaped.imaLog
  texts key listed := by
    have other : "nonce" ≠ key := by
      rintro rfl
      simp at listed
    rw [Json.Map.get_insert, if_neg other]
    exact shaped.texts key listed

/-- The host's members are texts. -/
theorem ItrusteeShaped.injected {members : Json.Map K.json.Float} (shaped : ItrusteeShaped members)
    (result : ItrusteeVerificationResult) : ItrusteeShaped (injectItrusteeClaims K members result) where
  report := by
    obtain ⟨report, told⟩ := shaped.report
    exact ⟨report, by simp [injectItrusteeClaims, Json.Map.get_insertSome, told]⟩
  imaLog := by
    simpa [injectItrusteeClaims, Json.Map.get_insertSome] using shaped.imaLog
  texts key listed := by
    have before := shaped.texts key listed
    simp only [List.mem_cons, List.not_mem_nil, or_false] at listed
    rcases listed with rfl | rfl | rfl | rfl | rfl
    all_goals
      simp only [injectItrusteeClaims, Json.Map.get_insertSome, String.reduceEq, if_true, if_false]
      exact before.text _

theorem readItrustee_shaped {kept : Json.Map K.json.Float} {nonce : String} (shaped : ItrusteeShaped kept)
    (fresh : Json.Map.get kept "nonce" = some (.string nonce)) :
    ∃ parsed, readItrusteeEvidence (K := K) (.object kept) = some parsed ∧ parsed.nonce = nonce := by
  obtain ⟨report, told⟩ := shaped.report
  obtain ⟨imaLog, log⟩ := shaped.imaLog.optional
  obtain ⟨uuid, first⟩ := (shaped.texts "itrustee_uuid" (by simp)).optional
  obtain ⟨taImg, second⟩ := (shaped.texts "itrustee_ta_img" (by simp)).optional
  obtain ⟨taMem, third⟩ := (shaped.texts "itrustee_ta_mem" (by simp)).optional
  obtain ⟨hashAlg, fourth⟩ := (shaped.texts "itrustee_hash_alg" (by simp)).optional
  obtain ⟨version, fifth⟩ := (shaped.texts "itrustee_version" (by simp)).optional
  exact ⟨⟨report, nonce, imaLog, uuid, taImg, taMem, hashAlg, version⟩, by
    simp only [readItrusteeEvidence, Value.fields, told, fresh, Value.asStr, log, first, second, third, fourth, fifth,
      bind, Option.bind_some], rfl⟩

theorem VirtccaShaped.again {members kept : Json.Map K.json.Float} (faithful : K.json.Faithful)
    (shaped : VirtccaShaped members)
    (each : ∀ key, Json.Map.get kept key = (Json.Map.get members key).map K.json.again) : VirtccaShaped kept where
  evidence := by
    obtain ⟨value, bytes, held, read⟩ := shaped.evidence
    exact ⟨K.json.again value, bytes, by rw [each, held]; rfl, by rw [faithful.again_asBytes, read]⟩
  devCert := by
    obtain ⟨value, bytes, held, read⟩ := shaped.devCert
    exact ⟨K.json.again value, bytes, by rw [each, held]; rfl, by rw [faithful.again_asBytes, read]⟩
  logs key listed := by
    rw [each]
    exact (shaped.logs key listed).again faithful faithful.again_asBytes
  texts key listed := by
    rw [each]
    exact (shaped.texts key listed).again faithful faithful.again_asStr
  isPlatform := by
    rw [each]
    exact shaped.isPlatform.again faithful faithful.again_asBool

theorem VirtccaShaped.nonce {members : Json.Map K.json.Float} (shaped : VirtccaShaped members)
    (nonce : Value K.json.Float) : VirtccaShaped (Json.Map.insert members "nonce" nonce) where
  evidence := by
    simpa [Json.Map.get_insert] using shaped.evidence
  devCert := by
    simpa [Json.Map.get_insert] using shaped.devCert
  logs key listed := by
    have other : "nonce" ≠ key := by
      rintro rfl
      simp at listed
    rw [Json.Map.get_insert, if_neg other]
    exact shaped.logs key listed
  texts key listed := by
    have other : "nonce" ≠ key := by
      rintro rfl
      simp at listed
    rw [Json.Map.get_insert, if_neg other]
    exact shaped.texts key listed
  isPlatform := by
    simpa [Json.Map.get_insert] using shaped.isPlatform

theorem VirtccaShaped.injected {members : Json.Map K.json.Float} (shaped : VirtccaShaped members)
    (result : VirtccaVerificationResult) : VirtccaShaped (injectVirtccaClaims K members result) := by
  have untouched : ∀ key, key ∉ ["virtcca_token_size", "virtcca_cert_size", "virtcca_ima_log_size",
      "virtcca_event_log_size"] → Json.Map.get (injectVirtccaClaims K members result) key = Json.Map.get members key := by
    intro key other
    simp only [List.mem_cons, List.not_mem_nil, or_false, not_or] at other
    simp [injectVirtccaClaims, Json.Map.get_insertSome, Json.Map.get_insert, Ne.symm other.1, Ne.symm other.2.1,
      Ne.symm other.2.2.1, Ne.symm other.2.2.2]
  refine ⟨?_, ?_, fun key listed => ?_, fun key listed => ?_, ?_⟩
  · rw [untouched _ (by decide)]
    exact shaped.evidence
  · rw [untouched _ (by decide)]
    exact shaped.devCert
  · rw [untouched key (by revert key; decide)]
    exact shaped.logs key listed
  · rw [untouched key (by revert key; decide)]
    exact shaped.texts key listed
  · rw [untouched _ (by decide)]
    exact shaped.isPlatform

theorem readVirtcca_shaped {kept : Json.Map K.json.Float} {nonce : String} (shaped : VirtccaShaped kept)
    (fresh : Json.Map.get kept "nonce" = some (.string nonce)) :
    ∃ parsed, readVirtccaEvidence (.object kept) = some parsed ∧ parsed.nonce = nonce ∧
      ∀ found, parsed.virtccaPlatformSwComponents = some found → found.depth ≤ depthMembers kept := by
  obtain ⟨evidence, token, held, tokenBytes⟩ := shaped.evidence
  obtain ⟨devCert, cert, holds, certBytes⟩ := shaped.devCert
  obtain ⟨imaLog, ima⟩ := (shaped.logs "ima_log" (by simp)).optional
  obtain ⟨eventLog, events⟩ := (shaped.logs "event_log" (by simp)).optional
  obtain ⟨rim, first⟩ := (shaped.texts "virtcca_rim" (by simp)).optional
  obtain ⟨rpv, second⟩ := (shaped.texts "virtcca_rpv" (by simp)).optional
  obtain ⟨challenge, third⟩ := (shaped.texts "virtcca_challenge" (by simp)).optional
  obtain ⟨isPlatform, fourth⟩ := shaped.isPlatform.optional
  have whole : FieldReads (J := K.json) some (Json.Map.get kept "virtcca_platform_sw_components") :=
    fun value _ => ⟨value, rfl⟩
  obtain ⟨components, fifth⟩ := whole.optional
  refine ⟨⟨token, cert, nonce, imaLog, eventLog, rim, rpv, challenge, isPlatform, components⟩, ?_, rfl, ?_⟩
  · simp only [readVirtccaEvidence, Value.fields, held, holds, tokenBytes, certBytes, fresh, Value.asStr, ima, events,
      first, second, third, fourth, fifth, bind, Option.bind_some]
  · rintro found ⟨⟩
    have member := Value.optional_eq_some.mp fifth
    cases there : Json.Map.get kept "virtcca_platform_sw_components" with
    | none =>
      rw [there] at member
      cases member
    | some value =>
      have deep := Json.depth_of_get there
      rw [there] at member
      by_cases null : value = .null
      · subst null
        cases member
      · rw [Value.present_some null] at member
        cases member
        exact deep

/-- The claims of an appraiser that is content. -/
structure Accepted (teeType : String) (claims : Json.Map K.json.Float) : Prop where
  shallow : depthMembers claims ≤ 110
  clean : Json.Map.get claims "error" = none
  verdict : Json.Map.get claims "verification" = some (.string "passed")
  named : Json.Map.get claims "tee_type" = some (.string teeType)

theorem scalar_depth {β : Type} {member : Option β} {write : β → Value K.json.Float} {found : Value K.json.Float}
    {bound : Nat} (flat : ∀ value, (write value).depth = 0) (held : member.map write = some found) :
    found.depth ≤ bound := by
  obtain ⟨value, -, rfl⟩ := Option.map_eq_some_iff.mp held
  rw [flat]
  exact Nat.zero_le _

theorem Accepted.insertSome {teeType key : String} {claims : Json.Map K.json.Float} {value : Option (Value K.json.Float)}
    (accepted : Accepted teeType claims) (apart : key ∉ ["error", "verification", "tee_type"])
    (deep : ∀ found, value = some found → found.depth ≤ 110) :
    Accepted teeType (Json.Map.insertSome claims key value) := by
  simp only [List.mem_cons, List.not_mem_nil, or_false, not_or] at apart
  obtain ⟨error, verification, teeType⟩ := apart
  refine ⟨Json.depthMembers_insertSome accepted.shallow deep, ?_, ?_, ?_⟩
  · rw [Json.Map.get_insertSome, if_neg error, accepted.clean]
  · rw [Json.Map.get_insertSome, if_neg verification, accepted.verdict]
  · rw [Json.Map.get_insertSome, if_neg teeType, accepted.named]

theorem nonceOk_own (nonce : Bytes) : nonceOk K (K.encodeBase64Url nonce) (some nonce) = true := by
  rw [nonceOk, beq_self_eq_true]

theorem itrusteeClaims_accepts {teeType : String} {evidence nonce : Bytes} {parsed : ItrusteeEvidence}
    (parses : K.json.fromSliceAs readItrusteeEvidence evidence = .ok parsed)
    (bound : parsed.nonce = K.encodeBase64Url nonce) :
    ∃ claims, itrusteeClaims K teeType evidence (some nonce) = .object claims ∧ Accepted teeType claims := by
  simp only [itrusteeClaims, parses, bound, nonceOk_own, verificationText, if_true]
  refine ⟨_, rfl, ?_⟩
  iterate 5 apply Accepted.insertSome _ (by decide) fun _ held => scalar_depth (fun _ => rfl) held
  constructor <;> simp [depthMembers, Value.depth]

theorem virtccaClaims_accepts {teeType : String} {evidence nonce : Bytes} {parsed : VirtccaEvidence K}
    (parses : K.json.fromSliceAs readVirtccaEvidence evidence = .ok parsed)
    (bound : parsed.nonce = K.encodeBase64Url nonce)
    (components : ∀ found, parsed.virtccaPlatformSwComponents = some found → found.depth ≤ 110) :
    ∃ claims, virtccaClaims K teeType evidence (some nonce) = .object claims ∧ Accepted teeType claims := by
  simp only [virtccaClaims, parses, bound, nonceOk_own, verificationText, if_true]
  refine ⟨_, rfl, ?_⟩
  iterate 2 apply Accepted.insertSome _ (by decide) fun _ held => scalar_depth (fun _ => rfl) held
  apply Accepted.insertSome _ (by decide) components
  iterate 4 apply Accepted.insertSome _ (by decide) fun _ held => scalar_depth (fun _ => rfl) held
  constructor <;> simp [depthMembers, Value.depth]

end Shapes

end UnifiedAttestation.Protocol
