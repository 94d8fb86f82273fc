import UnifiedAttestation.Attester.Circuit
import UnifiedAttestation.Toolkit.RoundTrips

/-! The listener of the relying party: its checks of an evidence frame, and what
an accepted frame shows.

Sockets deliver what is sent. Texts printed to the console are results, because
the check of the verifier's signature has no other; the key in them is left out.
-/

set_option autoImplicit false

namespace UnifiedAttestation.RelyingParty

open Wire (Bytes Outcome Fault toBeBytes utf8 bail orBail context)
open Toolkit

section Checks
variable {S : Suite}

/-- The crate's own copy of the bytes signed for freshness. -/
def proofTimestampPeriodSigningBytes (evidenceReply : EvidenceReply S) : Bytes :=
  appendField "proof" (S.proofBytes evidenceReply.proof) ++
  appendField "timestamp_attester" (serializeDuration evidenceReply.timestampAttester) ++
  appendField "period_attester" (serializeDuration evidenceReply.periodAttester)

theorem proofTimestampPeriodSigningBytes_eq (reply : EvidenceReply S) :
    proofTimestampPeriodSigningBytes reply =
      Toolkit.proofTimestampPeriodSigningBytes S reply.proof reply.timestampAttester reply.periodAttester := rfl

/-- The message the verifier is supposed to have signed. -/
def verifierMessage (evidenceReply : EvidenceReply S) : Bytes :=
  S.pointBytes evidenceReply.pk ++ S.showScalar evidenceReply.authorizedInfor ++
    toBeBytes 8 evidenceReply.timestamp.secs ++ toBeBytes 8 evidenceReply.period.secs

/-- The verifier's authorization signature holds. -/
def Endorsed (verifierPk : S.VerifyingKey) (evidenceReply : EvidenceReply S) : Prop :=
  S.verify verifierPk (verifierMessage evidenceReply) evidenceReply.sig = true

instance (verifierPk : S.VerifyingKey) (reply : EvidenceReply S) : Decidable (Endorsed verifierPk reply) :=
  inferInstanceAs (Decidable (_ = _))

/-- Prints a line and returns nothing. -/
def relyPartyVerifierSig (evidenceReply : EvidenceReply S) (verifierPk : S.VerifyingKey) : List String :=
  if Endorsed verifierPk evidenceReply then ["verifier authorization signature verified"]
  else ["verifier authorization signature verification failed"]

/-- The printed lines and the result. -/
def relyPartyVerification (root : List S.Scalar) (evidenceReply : EvidenceReply S) (signature : S.Signature)
    (verifierPk : S.VerifyingKey) : List String × Bool :=
  let publicInputs := evidenceReply.genPublicInputs root
  let msg := evidenceReply.toSigningBytesAllFields
  let printed :=
    (if S.verify evidenceReply.pk msg signature then ["attester EvidenceReply signature verified"]
      else ["attester EvidenceReply signature verification failed"]) ++
    relyPartyVerifierSig evidenceReply verifierPk
  match S.verifyProof evidenceReply.vk publicInputs evidenceReply.proof with
  | none => (printed ++ ["relying-party proof verification failed"], false)
  | some false =>
    (printed ++ ["relying-party proof verification failed", "attester evidence verification failed"], false)
  | some true =>
    (printed ++ ["relying-party proof verification success", "attester evidence verification success"], true)

def verifyEvidenceReplyAttesterSignature (evidenceReply : EvidenceReply S) (signature : S.Signature) :
    Outcome Unit :=
  if S.verify evidenceReply.pk evidenceReply.toSigningBytesAllFields signature then .ok ()
  else bail "attester EvidenceReply signature verification failed"

def verifyEvidenceReplyAttesterFreshness (now : Option Duration) (evidenceReply : EvidenceReply S) :
    Outcome Unit := do
  let expiresAt ← orBail "EvidenceReply timestamp_attester + period_attester overflow"
    (evidenceReply.timestampAttester.checkedAdd evidenceReply.periodAttester)
  let now ← orBail "system time is before UNIX_EPOCH" now
  if now < expiresAt then pure ()
  else
    let timestamp := evidenceReply.timestampAttester.secs
    let period := evidenceReply.periodAttester.secs
    let clock := now.secs
    bail s!"EvidenceReply expired: timestamp_attester={timestamp} period_attester={period} now={clock}"

def verifyEvidenceReplyProofTimestampPeriodSignature (evidenceReply : EvidenceReply S) : Outcome Unit :=
  if S.verify evidenceReply.pk (proofTimestampPeriodSigningBytes evidenceReply)
      evidenceReply.proofTimestampPeriodSignature then .ok ()
  else bail "attester proof/timestamp_attester/period_attester signature verification failed"

/-- The attester's window has not ended. -/
def Fresh (now : Option Duration) (evidenceReply : EvidenceReply S) : Prop :=
  ∃ clock expiresAt, now = some clock ∧
    evidenceReply.timestampAttester.checkedAdd evidenceReply.periodAttester = some expiresAt ∧ clock < expiresAt

theorem verifyEvidenceReplyAttesterFreshness_iff {now : Option Duration} {reply : EvidenceReply S} :
    verifyEvidenceReplyAttesterFreshness now reply = .ok () ↔ Fresh now reply := by
  simp only [verifyEvidenceReplyAttesterFreshness, Fresh, Wire.bind_eq_ok, Wire.orBail_eq_ok]
  constructor
  · rintro ⟨expiresAt, sum, clock, reading, rest⟩
    refine ⟨clock, expiresAt, reading, sum, ?_⟩
    by_contra expired
    rw [if_neg expired] at rest
    cases rest
  · rintro ⟨clock, expiresAt, reading, sum, before⟩
    exact ⟨expiresAt, sum, clock, reading, if_pos before⟩

theorem relyPartyVerification_iff {root : List S.Scalar} {reply : EvidenceReply S} {sig : S.Signature}
    {verifierPk : S.VerifyingKey} :
    (relyPartyVerification root reply sig verifierPk).2 = true ↔
      S.verifyProof reply.vk (reply.genPublicInputs root) reply.proof = some true := by
  simp only [relyPartyVerification]
  generalize S.verifyProof reply.vk (reply.genPublicInputs root) reply.proof = verdict
  rcases verdict with _ | _ | _ <;> simp

end Checks

section Handler
variable {S : Suite}

variable (S) in
/-- What one connection leaves behind: the frames sent back, the bytes written to
`public_context.bin`, the cached context and the result. -/
structure Handled where
  replies : List Bytes
  written : Option Bytes
  cached : Option (PublicContext S)
  result : Outcome Unit

/-- Decode the evidence and run the three checks before the proof. -/
def checkEvidence (now : Option Duration) (message : Bytes) : Outcome (EvidenceReply S × S.Signature) := do
  let evidence ← context "decode EvidenceReply failed" (decodeEvidenceMessage S message)
  verifyEvidenceReplyAttesterFreshness now evidence.1
  verifyEvidenceReplyProofTimestampPeriodSignature evidence.1
  verifyEvidenceReplyAttesterSignature evidence.1 evidence.2
  pure evidence

def verificationSuccess : Bytes := utf8 "verification success"

def verificationFailed : Bytes := utf8 "verification failed"

/-- Handle the evidence once the checks before the proof have passed. -/
def handleEvidence (cached : Option (PublicContext S)) (evidence : EvidenceReply S × S.Signature) : Handled S :=
  match cached with
  | none => ⟨[utf8 "verification failed: missing PublicContext"], none, cached, bail "missing PublicContext"⟩
  | some ctx =>
    let verified := (relyPartyVerification ctx.root evidence.1 evidence.2 ctx.verifierPk).2
    ⟨[if verified then verificationSuccess else verificationFailed], none, cached, .ok ()⟩

def handle (now : Option Duration) (cached : Option (PublicContext S)) (payload : Bytes) : Handled S :=
  match tcpReadFrame payload with
  | .error fault => ⟨[], none, cached, .error fault⟩
  | .ok message =>
    if startsWith message msgPublicContext then
      match context "decode PublicContext failed" (decodePublicContextMessage S message) with
      | .error fault => ⟨[], none, cached, .error fault⟩
      | .ok ctx => ⟨[], some (encodePublicContext S ctx), some ctx, .ok ()⟩
    else if startsWith message msgEvidence then
      match checkEvidence now message with
      | .error fault => ⟨[], none, cached, .error fault⟩
      | .ok evidence => handleEvidence cached evidence
    else ⟨[], none, cached, bail ("unknown message type, first 4 bytes: " ++ debugFront message)⟩

/-- A connection is answered at most once. -/
theorem handle_answers_once {now : Option Duration} {cached : Option (PublicContext S)} {payload reply : Bytes}
    (answered : reply ∈ (handle now cached payload).replies) : (handle now cached payload).replies = [reply] := by
  have few : (handle now cached payload).replies.length ≤ 1 := by
    simp only [handle]
    split
    · exact Nat.zero_le _
    · split
      · split <;> exact Nat.zero_le _
      · split
        · split
          · exact Nat.zero_le _
          · cases cached <;> exact Nat.le_refl _
        · exact Nat.zero_le _
  have some := List.length_pos_of_mem answered
  obtain ⟨only, single⟩ := List.length_eq_one_iff.mp (Nat.le_antisymm few some)
  rw [single, List.mem_singleton] at answered
  rw [single, answered]

/-- All checks but the one on the verifier's signature. -/
structure Passes (now : Option Duration) (ctx : PublicContext S) (reply : EvidenceReply S) (sig : S.Signature) :
    Prop where
  fresh : Fresh now reply
  freshnessSigned : S.verify reply.pk (proofTimestampPeriodSigningBytes reply)
    reply.proofTimestampPeriodSignature = true
  attesterSigned : S.verify reply.pk reply.toSigningBytesAllFields sig = true
  proved : S.verifyProof reply.vk (reply.genPublicInputs ctx.root) reply.proof = some true

theorem verify_eq_ok {verified : Bool} {message : String} :
    (if verified = true then (.ok () : Outcome Unit) else bail message) = .ok () ↔ verified = true := by
  cases verified <;> simp [bail]

theorem checkEvidence_eq_ok {now : Option Duration} {message : Bytes} {evidence : EvidenceReply S × S.Signature} :
    checkEvidence now message = .ok evidence ↔
      decodeEvidenceMessage S message = .ok evidence ∧ Fresh now evidence.1 ∧
        S.verify evidence.1.pk (proofTimestampPeriodSigningBytes evidence.1)
          evidence.1.proofTimestampPeriodSignature = true ∧
        S.verify evidence.1.pk evidence.1.toSigningBytesAllFields evidence.2 = true := by
  simp only [checkEvidence, Wire.bind_eq_ok, Wire.context_eq_ok]
  constructor
  · rintro ⟨decoded, read, ⟨⟩, fresh, ⟨⟩, freshness, ⟨⟩, attester, returned⟩
    obtain rfl := Except.ok.inj returned
    exact ⟨read, verifyEvidenceReplyAttesterFreshness_iff.mp fresh, verify_eq_ok.mp freshness,
      verify_eq_ok.mp attester⟩
  · rintro ⟨read, fresh, freshness, attester⟩
    exact ⟨evidence, read, (), verifyEvidenceReplyAttesterFreshness_iff.mpr fresh, (), verify_eq_ok.mpr freshness,
      (), verify_eq_ok.mpr attester, rfl⟩

theorem handleEvidence_success_iff {ctx : PublicContext S} {evidence : EvidenceReply S × S.Signature} :
    verificationSuccess ∈ (handleEvidence (some ctx) evidence).replies ↔
      S.verifyProof evidence.1.vk (evidence.1.genPublicInputs ctx.root) evidence.1.proof = some true := by
  have different : verificationSuccess ≠ verificationFailed := by decide
  rw [handleEvidence, ← @relyPartyVerification_iff S ctx.root evidence.1 evidence.2 ctx.verifierPk]
  simp only [List.mem_singleton]
  split
  · rename_i verified
    simp [verified]
  · rename_i refused
    simp [refused, different]

/-- The listener acknowledges a frame exactly when it carries evidence that passes
the attester's checks and the proof. -/
theorem handle_success_iff {now : Option Duration} {ctx : PublicContext S} {payload : Bytes} :
    verificationSuccess ∈ (handle now (some ctx) payload).replies ↔
      payload.length ≤ maxTcpFrameLen ∧
        ∃ reply sig, decodeEvidenceMessage S payload = .ok (reply, sig) ∧ Passes now ctx reply sig := by
  by_cases long : maxTcpFrameLen < payload.length
  · simp [handle, tcpReadFrame, if_pos long, bail, Nat.not_le.mpr long]
  · have short : payload.length ≤ maxTcpFrameLen := Nat.le_of_not_lt long
    simp only [handle, tcpReadFrame, if_neg long, short, true_and]
    cases typed : startsWith payload msgEvidence with
    | false =>
      -- Neither a refresh nor an unknown message is ever acknowledged.
      have undecoded : decodeEvidenceMessage S payload = bail "not an Evidence message" := by
        simp [decodeEvidenceMessage, typed]
      constructor
      · split
        · split <;> simp
        · simp
      · rintro ⟨reply, sig, decoded, -⟩
        rw [undecoded] at decoded
        cases decoded
    | true =>
      obtain ⟨rest, rfl⟩ := List.isPrefixOf_iff_prefix.mp typed
      have other : startsWith (msgEvidence ++ rest) msgPublicContext = false :=
        @startsWith_other msgEvidence msgPublicContext (by decide) (by decide) rest
      rw [if_neg (by rw [other]; decide), if_pos rfl]
      cases checked : checkEvidence (S := S) now (msgEvidence ++ rest) with
      | error fault =>
        simp only [List.not_mem_nil, false_iff, not_exists, not_and]
        intro reply sig decoded passes
        have := checkEvidence_eq_ok.mpr ⟨decoded, passes.fresh, passes.freshnessSigned, passes.attesterSigned⟩
        rw [checked] at this
        cases this
      | ok evidence =>
        obtain ⟨decoded, fresh, freshness, attester⟩ := checkEvidence_eq_ok.mp checked
        simp only [handleEvidence_success_iff]
        constructor
        · intro proved
          exact ⟨evidence.1, evidence.2, decoded, fresh, freshness, attester, proved⟩
        · rintro ⟨reply, sig, again, passes⟩
          obtain rfl := Except.ok.inj (again.symm.trans decoded)
          exact passes.proved

end Handler

section Endorsement
variable {S : Suite}

/-- A frame is acknowledged only with the verifier's endorsement exactly when it is
refused for another reason or happens to carry one. -/
theorem handle_endorsed_iff {now : Option Duration} {ctx : PublicContext S} {payload : Bytes} :
    (verificationSuccess ∈ (handle now (some ctx) payload).replies →
        ∃ reply sig, decodeEvidenceMessage S payload = .ok (reply, sig) ∧ Passes now ctx reply sig ∧
          Endorsed ctx.verifierPk reply) ↔
      maxTcpFrameLen < payload.length ∨ ∀ reply sig, decodeEvidenceMessage S payload = .ok (reply, sig) →
        Passes now ctx reply sig → Endorsed ctx.verifierPk reply := by
  rw [handle_success_iff]
  constructor
  · intro only
    refine or_iff_not_imp_left.mpr fun short reply sig decoded passes => ?_
    obtain ⟨reply', sig', decoded', -, endorsed⟩ := only ⟨Nat.le_of_not_lt short, reply, sig, decoded, passes⟩
    obtain ⟨rfl, rfl⟩ := Prod.mk.inj (Except.ok.inj (decoded.symm.trans decoded'))
    exact endorsed
  · rintro refused ⟨short, reply, sig, decoded, passes⟩
    have endorsed := refused.resolve_left (Nat.not_lt.mpr short)
    exact ⟨reply, sig, decoded, passes, endorsed reply sig decoded passes⟩

/-- Evidence that an attester signs over a proof that verifies is acknowledged,
whatever stands in the place of the verifier's signature. -/
theorem handle_signed (ecdsa : S.EcdsaComplete) (trips : S.RoundTrips) {now now' : Option Duration}
    {ctx : PublicContext S} {key : S.SigningKey} {proof : S.Proof} {vk : S.GrothKey} {sig : S.Signature}
    {timestamp period : Duration} {authorizedInfor : S.Scalar} {reply : EvidenceReply S}
    (made : EvidenceReply.new S now' proof vk sig (S.verifyingKey key) timestamp period authorizedInfor key =
      .ok reply)
    (fits : (encodeEvidenceMessage S reply (S.sign key reply.toSigningBytesAllFields)).length ≤ maxTcpFrameLen)
    (fresh : Fresh now reply)
    (proved : S.verifyProof vk (reply.genPublicInputs ctx.root) proof = some true) :
    verificationSuccess ∈
      (handle now (some ctx) (encodeEvidenceMessage S reply (S.sign key reply.toSigningBytesAllFields))).replies := by
  refine handle_success_iff.mpr ⟨fits, reply, _, decodeEvidenceMessage_encode trips ?_, fresh, ?_, ?_, ?_⟩
  · exact Nat.le_trans fits (by decide)
  all_goals
    cases now' with
    | none => cases made
    | some clock =>
      obtain rfl := Except.ok.inj made
      first | exact ecdsa.accepts key _ | exact proved

/-- Evidence of the reference suite with nothing in the place of the verifier's signature. -/
def unendorsed : EvidenceReply reference :=
  let key := byteKey 0
  let proof := inputBytes [0, 5, 7, 10, 20]
  let clock := seconds 50
  { proof, vk := (5 : Nat), sig := [], pk := key.val, timestamp := seconds 10, period := seconds 20
    authorizedInfor := (7 : Nat), timestampAttester := clock
    periodAttester := evidenceReplyAttesterPeriod
    proofTimestampPeriodSignature :=
      signProofTimestampPeriod reference key proof clock evidenceReplyAttesterPeriod }

theorem unendorsed_acknowledged :
    ∃ payload, verificationSuccess ∈
        (handle (S := reference) (some (Duration.fromSecs 60 (by decide))) (some ⟨[(5 : Nat)], [9]⟩) payload).replies ∧
      ¬ ∃ reply sig, decodeEvidenceMessage reference payload = .ok (reply, sig) ∧
        Passes (some (Duration.fromSecs 60 (by decide))) ⟨[(5 : Nat)], [9]⟩ reply sig ∧ Endorsed (S := reference) [9] reply := by
  have fits : (encodeEvidenceMessage reference unendorsed (reference.sign ⟨List.replicate 32 0, rfl⟩
      unendorsed.toSigningBytesAllFields)).length ≤ maxTcpFrameLen := by decide +kernel
  have made : EvidenceReply.new reference (some (Duration.fromSecs 50 (by decide))) unendorsed.proof unendorsed.vk
      unendorsed.sig (reference.verifyingKey ⟨List.replicate 32 0, rfl⟩) unendorsed.timestamp unendorsed.period
      unendorsed.authorizedInfor ⟨List.replicate 32 0, rfl⟩ = .ok unendorsed := rfl
  refine ⟨_, handle_signed reference_ecdsaComplete reference_roundTrips made fits ?_ ?_, ?_⟩
  · exact ⟨_, _, rfl, rfl, by decide⟩
  · decide
  · rintro ⟨reply, sig, decoded, -, endorsed⟩
    rw [decodeEvidenceMessage_encode reference_roundTrips (Nat.le_trans fits (by decide))] at decoded
    obtain ⟨rfl, rfl⟩ := Prod.mk.inj (Except.ok.inj decoded)
    exact absurd endorsed (by decide)

end Endorsement

end UnifiedAttestation.RelyingParty
