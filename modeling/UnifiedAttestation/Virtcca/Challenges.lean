import UnifiedAttestation.Virtcca.Endorsement
import UnifiedAttestation.Virtcca.Decoding

/-! Which challenges a VirtCCA token answers.

The challenge is compared with as many bytes of the token's challenge field as it has. So
accepted evidence answers every beginning of the field, and where the payload states no
challenge it answers zeros.
-/

set_option autoImplicit false

namespace UnifiedAttestation.Virtcca

open Wire (Bytes Outcome)

variable {K : Crates}

section Checks

/-- The payload of the token is the map of the entries. -/
def CvmPayload (evidence : Evidence K) (entries : List (Cbor × Cbor)) : Prop :=
  ∃ inner, K.fromReaderBytes (K.payload evidence.cvmEnvelop) = .ok inner ∧ K.fromReader inner = .ok (.map entries)

/-- The challenge field of a payload: 64 zeros where no label states it. -/
def challengeField (entries : List (Cbor × Cbor)) : Bytes := lastOr 10 bytesIn (List.replicate 64 0) entries

def StatesCvmChallenge (entries : List (Cbor × Cbor)) : Prop := ∃ v, (Cbor.integer 10, v) ∈ entries

/-- The evidence passes all checks but that of the challenge. -/
structure Passes (bytes : Bytes) (virtccaEv : VirtccaEvidence) (evidence : Evidence K) : Prop where
  parsed : K.fromSlice bytes = .ok virtccaEv
  decoded : Evidence.decode K virtccaEv.evidence = .ok evidence
  device : ∃ devCert, evidence.parseDevCert virtccaEv.devCert = .ok devCert ∧
    evidence.verifyPlatformToken devCert = .ok ()
  bound : evidence.verifyCvmPubKey = .ok ()
  signed : ∃ key, cvmKey K evidence.cvmToken = .ok key ∧ verifyCoseSign1 K evidence.cvmEnvelop key = .ok ()
  reference : evidence.verifyReference = .ok ()
  logs : ∃ ima eventLog, evidence.verifyIma virtccaEv.imaLog = .ok ima ∧
    evidence.verifyEventLog virtccaEv.eventLog = .ok eventLog

end Checks

section Fields
variable {entries : List (Cbor × Cbor)}

theorem lastUnder_mem {label : Int} {v : Cbor} (last : lastUnder label entries = some v) :
    (.integer label, v) ∈ entries := by
  induction entries with
  | nil => cases last
  | cons entry rest ih =>
    obtain ⟨key, value⟩ := entry
    rw [lastUnder, Option.or_eq_some_iff] at last
    rcases last with later | ⟨_, here⟩
    · exact List.mem_cons_of_mem _ (ih later)
    · split at here
      · next named =>
        cases here
        cases key with
        | integer found =>
          cases named
          exact List.mem_cons_self
        | bytes | float | text | bool | null | tag | array | map => cases named
      · cases here

theorem challengeField_length (documented : ∀ entry ∈ entries, IsEntry CvmToken.Documented entry) :
    (challengeField entries).length = 64 := by
  rw [challengeField, lastOr]
  cases last : lastUnder 10 entries with
  | none => rfl
  | some v =>
    obtain ⟨bytes, rfl, none | sized⟩ : IsBytes [64] v := isEntry_integer.mp (documented _ (lastUnder_mem last))
    · cases none
    · exact List.mem_singleton.mp sized

/-- The token of decoded evidence is read from its payload. -/
theorem decode_cvm {rawEvidence : Bytes} {evidence : Evidence K} (decoded : Evidence.decode K rawEvidence = .ok evidence) :
    ∃ entries, CvmPayload evidence entries ∧ evidence.cvmToken.challenge = challengeField entries ∧
      (challengeField entries).length = 64 := by
  simp only [Evidence.decode, Wire.bind_eq_ok] at decoded
  obtain ⟨_, _, start, _, cvmEnvelop, _, cvmToken, token, last⟩ := decoded
  -- A platform token next to the CVM token leaves what was read of the latter.
  have kept : evidence.cvmEnvelop = cvmEnvelop ∧ evidence.cvmToken = cvmToken := by
    unfold Evidence.decodePlatform at last
    split at last
    · simp only [Wire.bind_eq_ok] at last
      obtain ⟨_, _, _, _, same⟩ := last
      cases same
      exact ⟨rfl, rfl⟩
    · cases last
      exact ⟨rfl, rfl⟩
  simp only [decodeCvmToken, Wire.bind_eq_ok] at token
  obtain ⟨inner, outer, payload, read, token⟩ := token
  obtain ⟨⟨⟨entries, rfl, documented⟩, _⟩, rfl⟩ := ((CvmToken.decode_yields payload).ok cvmToken).mp token
  refine ⟨entries, ⟨inner, by rw [kept.1, outer], read⟩, ?_, challengeField_length documented⟩
  rw [kept.2]
  rfl

theorem CvmPayload.unique {evidence : Evidence K} {entries entries' : List (Cbor × Cbor)}
    (payload : CvmPayload evidence entries) (payload' : CvmPayload evidence entries') : entries = entries' := by
  obtain ⟨inner, outer, read⟩ := payload
  obtain ⟨inner', outer', read'⟩ := payload'
  cases outer.symm.trans outer'
  cases read.symm.trans read'
  rfl

end Fields

section Answers
variable {userData userData' bytes challenge challenge' : Bytes} {virtccaEv : VirtccaEvidence} {evidence : Evidence K}
  {entries : List (Cbor × Cbor)}

/-- The comparison of a challenge that is no longer than the field. -/
theorem slice_eq_challenge {field : Bytes} (short : challenge.length ≤ field.length) :
    Eventlog.slice field 0 challenge.length = .ok challenge ↔ challenge <+: field := by
  have taken : Eventlog.slice field 0 challenge.length = .ok (field.take challenge.length) := by
    simp [Eventlog.slice, short]
  rw [taken, Except.ok.injEq, List.prefix_iff_eq_take, eq_comm]

/-- Evidence answers a challenge exactly when it passes the other checks and the challenge
is the beginning of its field. -/
theorem evaluate_accepts_iff (decodes : K.decodeBase64Url userData = .ok challenge)
    (sized : 0 < challenge.length ∧ challenge.length ≤ 64) :
    (∃ claim, evaluate K userData bytes = .ok claim) ↔ ∃ virtccaEv evidence entries, Passes bytes virtccaEv evidence ∧
      CvmPayload (K := K) evidence entries ∧ challenge <+: challengeField entries := by
  simp only [evaluate, Evidence.verify, Evidence.verifyRead, Evidence.verifyCvmToken, Wire.bind_eq_ok,
    Wire.mapError_eq_ok, Wire.ensure_eq_ok]
  constructor
  · rintro ⟨claim, _, decodes', _, _, virtccaEv, parsed, evidence, decoded, devCert, cert, _, device, _,
      ⟨_, taken, _, rfl, _, bound, key, keyed, _, signed, reference⟩, ima, measured, eventLog, logged, _⟩
    cases decodes.symm.trans decodes'
    obtain ⟨entries, payload, field, length⟩ := decode_cvm decoded
    rw [field, slice_eq_challenge (by omega)] at taken
    exact ⟨virtccaEv, evidence, entries, ⟨parsed, decoded, ⟨devCert, cert, device⟩, bound, ⟨key, keyed, signed⟩,
      reference, ⟨ima, eventLog, measured, logged⟩⟩, payload, taken⟩
  · rintro ⟨virtccaEv, evidence, entries, passes, payload, beginning⟩
    obtain ⟨devCert, cert, device⟩ := passes.device
    obtain ⟨key, keyed, signed⟩ := passes.signed
    obtain ⟨ima, eventLog, measured, logged⟩ := passes.logs
    obtain ⟨entries', payload', field, length⟩ := decode_cvm passes.decoded
    cases payload.unique payload'
    rw [← slice_eq_challenge (by omega), ← field] at beginning
    exact ⟨_, challenge, decodes, (), sized, virtccaEv, passes.parsed, evidence, passes.decoded, devCert, cert, (),
      device, (), ⟨challenge, beginning, (), rfl, (), passes.bound, key, keyed, (), signed, passes.reference⟩, ima,
      measured, eventLog, logged, rfl⟩

/-- The signed payload of the evidence states a challenge. -/
def SignsChallenge (K : Crates) (bytes : Bytes) : Prop :=
  ∃ virtccaEv evidence entries, K.fromSlice bytes = .ok virtccaEv ∧
    Evidence.decode K virtccaEv.evidence = .ok evidence ∧ CvmPayload evidence entries ∧ StatesCvmChallenge entries

theorem Passes.unique {virtccaEv' : VirtccaEvidence} {evidence' : Evidence K} (passes : Passes bytes virtccaEv evidence)
    (parsed : K.fromSlice bytes = .ok virtccaEv') (decoded : Evidence.decode K virtccaEv'.evidence = .ok evidence') :
    evidence' = evidence := by
  cases passes.parsed.symm.trans parsed
  cases passes.decoded.symm.trans decoded
  rfl

/-- Two challenges that the same evidence answers are equal and stated in its payload,
unless they are beginnings of different lengths or the payload states none. -/
theorem answers_one_challenge_iff (decodes : K.decodeBase64Url userData = .ok challenge)
    (decodes' : K.decodeBase64Url userData' = .ok challenge') (sized : 0 < challenge.length ∧ challenge.length ≤ 64)
    (sized' : 0 < challenge'.length ∧ challenge'.length ≤ 64) :
    ((∃ claim, evaluate K userData bytes = .ok claim) → (∃ claim, evaluate K userData' bytes = .ok claim) →
        challenge = challenge' ∧ SignsChallenge K bytes) ↔
      ¬ ∃ virtccaEv evidence entries, Passes bytes virtccaEv evidence ∧ CvmPayload (K := K) evidence entries ∧
        challenge <+: challengeField entries ∧ challenge' <+: challengeField entries ∧
        (challenge.length ≠ challenge'.length ∨ ¬ StatesCvmChallenge entries) := by
  rw [evaluate_accepts_iff decodes sized, evaluate_accepts_iff decodes' sized']
  constructor
  · rintro single ⟨virtccaEv, evidence, entries, passes, payload, beginning, beginning', apart⟩
    obtain ⟨same, virtccaEv', evidence', entries', parsed, decoded, payload', states⟩ :=
      single ⟨virtccaEv, evidence, entries, passes, payload, beginning⟩
        ⟨virtccaEv, evidence, entries, passes, payload, beginning'⟩
    cases passes.unique parsed decoded
    cases payload.unique payload'
    rcases apart with lengths | silent
    · exact lengths (congrArg List.length same)
    · exact silent states
  · rintro steady ⟨virtccaEv, evidence, entries, passes, payload, beginning⟩
      ⟨_, _, _, passes', payload', beginning'⟩
    -- Both runs read one payload, and beginnings of one length are equal.
    cases passes.unique passes'.parsed passes'.decoded
    cases payload.unique payload'
    have same_length : challenge.length = challenge'.length := by
      by_contra apart
      exact steady ⟨virtccaEv, evidence, entries, passes, payload, beginning, beginning', .inl apart⟩
    have states : StatesCvmChallenge entries := by
      by_contra silent
      exact steady ⟨virtccaEv, evidence, entries, passes, payload, beginning, beginning', .inr silent⟩
    refine ⟨(List.prefix_of_prefix_length_le beginning beginning' same_length.le).eq_of_length same_length, ?_⟩
    exact ⟨virtccaEv, evidence, entries, passes.parsed, passes.decoded, payload, states⟩

end Answers

section Beginnings

/-- Libraries that know a second challenge, the first one with a zero behind it. -/
def paddedCrates : Crates :=
  { strangerCrates with
    decodeBase64Url := fun text =>
      if text = Wire.utf8 "Bw" then .ok [7]
      else if text = Wire.utf8 "BwA" then .ok [7, 0]
      else .error "InvalidByte" }

theorem paddedText_read : paddedCrates.fromSlice strangerText = .ok strangerEvidence := by
  have read : ∀ text, paddedCrates.fromSlice text = strangerCrates.fromSlice text := fun _ => rfl
  rw [read, strangerText_read]

theorem paddedCrates_accepts {userData challenge : Bytes} (decodes : paddedCrates.decodeBase64Url userData = .ok challenge)
    (sized : 0 < challenge.length ∧ challenge.length ≤ 64)
    (told : (Evidence.verifyRead paddedCrates challenge strangerEvidence).map TeeClaim.isPlatform = .ok false) :
    ∃ claim, evaluate paddedCrates userData strangerText = .ok claim := by
  obtain ⟨claim, accepted, _⟩ := Wire.map_eq_ok.mp told
  refine ⟨claim, Wire.bind_eq_ok.mpr ⟨challenge, Wire.mapError_eq_ok.mpr decodes, ?_⟩⟩
  refine Wire.bind_eq_ok.mpr ⟨(), Wire.ensure_eq_ok.mpr sized, ?_⟩
  exact Wire.bind_eq_ok.mpr ⟨strangerEvidence, paddedText_read, accepted⟩

theorem short_decoded : paddedCrates.decodeBase64Url (Wire.utf8 "Bw") = .ok [7] := by
  decide

theorem padded_decoded : paddedCrates.decodeBase64Url (Wire.utf8 "BwA") = .ok [7, 0] := by
  decide

/-- One token answers a challenge of one byte and one of two bytes. -/
theorem two_challenges_answered :
    (∃ claim, evaluate paddedCrates (Wire.utf8 "Bw") strangerText = .ok claim) ∧
      (∃ claim, evaluate paddedCrates (Wire.utf8 "BwA") strangerText = .ok claim) ∧
      paddedCrates.decodeBase64Url (Wire.utf8 "Bw") = .ok [7] ∧
      paddedCrates.decodeBase64Url (Wire.utf8 "BwA") = .ok [7, 0] :=
  ⟨paddedCrates_accepts short_decoded (by decide) (by decide +kernel),
    paddedCrates_accepts padded_decoded (by decide) (by decide +kernel), short_decoded, padded_decoded⟩

theorem answers_one_challenge_iff_padded :
    ((∃ claim, evaluate paddedCrates (Wire.utf8 "Bw") strangerText = .ok claim) →
        (∃ claim, evaluate paddedCrates (Wire.utf8 "BwA") strangerText = .ok claim) →
        ([7] : Bytes) = [7, 0] ∧ SignsChallenge paddedCrates strangerText) ↔
      ¬ ∃ virtccaEv evidence entries, Passes strangerText virtccaEv evidence ∧
        CvmPayload (K := paddedCrates) evidence entries ∧ [7] <+: challengeField entries ∧
        [7, 0] <+: challengeField entries ∧ (1 ≠ 2 ∨ ¬ StatesCvmChallenge entries) :=
  answers_one_challenge_iff short_decoded padded_decoded (by decide) (by decide)

end Beginnings

end UnifiedAttestation.Virtcca
