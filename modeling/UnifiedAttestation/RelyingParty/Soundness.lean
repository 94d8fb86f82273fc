import UnifiedAttestation.RelyingParty.Listener

/-! What an acknowledged frame proves about the device.

The verifying key travels in the frame, so a proof only shows membership in the
relation of that key. With an ideal proof system this is the statement of the
attestation circuit exactly for keys whose relation implies it.
-/

set_option autoImplicit false

namespace UnifiedAttestation.RelyingParty

open Wire (Bytes)
open Gadgets (Shape System)
open Shrubs (createBatchDevices)
open Attester (AttestationCircuit synthesize Paired)
open Toolkit

section Ideal
variable (S : Suite)

/-- A key verifies exactly the inputs of its relation. Of the keys a sender may bring
nothing else is known; the relation of a key from the setup is that of its shape. -/
structure GrothIdeal (relationOf : S.GrothKey → List S.Scalar → Prop) : Prop where
  setup : ∀ seed shape inputs, relationOf (S.setup seed shape).2 inputs ↔ shape.Satisfiable S.hash inputs
  sound : ∀ vk inputs proof, S.verifyProof vk inputs proof = some true → relationOf vk inputs
  complete : ∀ vk inputs, relationOf vk inputs → ∃ proof, S.verifyProof vk inputs proof = some true

/-- The sizes of the curves' encodings, and that every public key has a secret one. -/
structure CurveFacts : Prop where
  scalar : ∀ value, (S.scalarBytes value).length ≤ 32
  point : ∀ value, (S.pointBytes value).length ≤ 33
  signature : ∀ value, (S.derBytes value).length ≤ 72
  proof : ∀ value, (S.proofBytes value).length ≤ 384
  secret : ∀ pk, ∃ key, S.verifyingKey key = pk

variable {S}

/-- The values a relying party takes from a reply for its public inputs. -/
structure Terms (S : Suite) where
  pk : S.VerifyingKey
  authorizedInfor : S.Scalar
  timestamp : Duration
  period : Duration

def termsOf (reply : EvidenceReply S) : Terms S :=
  ⟨reply.pk, reply.authorizedInfor, reply.timestamp, reply.period⟩

def Terms.circuit (terms : Terms S) (root : List S.Scalar) (sk ar : S.Scalar) (path : Option (List S.Scalar))
    (tag : Option (List Bool)) : AttestationCircuit S :=
  { pk := scalarOfPoint S terms.pk, sk, ar, time := S.ofNat terms.timestamp.secs,
    period := S.ofNat terms.period.secs, output := terms.authorizedInfor, root, path, tag }

def Terms.inputs (terms : Terms S) (root : List S.Scalar) : List S.Scalar :=
  [scalarOfPoint S terms.pk] ++ root ++ [terms.authorizedInfor] ++ [S.ofNat terms.timestamp.secs] ++
    [S.ofNat terms.period.secs]

/-- Some secrets satisfy the attestation circuit for the terms. -/
def Proves (root : List S.Scalar) (terms : Terms S) : Prop :=
  ∃ sk ar path tag system, synthesize (terms.circuit root sk ar path tag) = .ok system ∧ system.Satisfied S.hash

/-- A context as the verifier publishes it: the roots of some non-empty leaves. -/
def Published (ctx : PublicContext S) : Prop :=
  ∃ leaves, leaves ≠ [] ∧ ctx.root = createBatchDevices S.hash [] leaves

end Ideal

section Keys
variable {S : Suite} {relationOf : S.GrothKey → List S.Scalar → Prop}

theorem membership_of_length {α : Type} {path other : List α} (length : other.length = path.length) (count : Nat)
    (tag : Option (List Bool)) :
    Attester.membership count (some other) tag = Attester.membership count (some path) tag := by
  simp only [Attester.membership, length]

theorem attestation_key (ideal : GrothIdeal S relationOf) {c : AttestationCircuit S} {system : System S.Scalar}
    (synthesized : synthesize c = .ok system) (rooted : c.root ≠ []) {root : List S.Scalar}
    (roots : root.length = c.root.length) (seed : Nat) (terms : Terms S)
    (related : relationOf (S.setup seed system.shape).2 (terms.inputs root)) :
    Proves root terms := by
  have rooted' : root ≠ [] := by
    rintro rfl
    exact rooted (List.length_eq_zero_iff.mp roots.symm)
  obtain ⟨witnesses, satisfied⟩ := (ideal.setup seed system.shape _).mp related
  rw [Attester.synthesize_eq rooted] at synthesized
  by_cases paired : Paired c.path c.tag
  · rw [if_pos paired] at synthesized
    obtain rfl := Except.ok.inj synthesized
    have count := satisfied.witnessCount
    have met := satisfied.met
    simp only [System.shape, AttestationCircuit.secrets, List.length_append, List.length_cons, List.length_nil]
      at count met
    -- The shape fixes the number of witnesses: the two secrets, then the siblings of the path.
    have counted : witnesses.length = (c.path.getD []).length + 1 + 1 := by omega
    obtain ⟨sk, tail, rfl⟩ := List.exists_cons_of_length_eq_add_one counted
    obtain ⟨ar, rest, rfl⟩ := List.exists_cons_of_length_eq_add_one (Nat.succ.inj counted)
    simp only [List.length_cons] at count
    rw [← roots] at met
    cases opened : c.path with
    | some path =>
      rw [opened, Option.getD_some] at count
      have length : rest.length = path.length := by omega
      have paired' : Paired (some rest) c.tag := by
        rw [opened] at paired
        rw [Paired, ← paired, Option.map_some, Option.map_some, length]
      refine ⟨sk, ar, some rest, c.tag, _, (Attester.synthesize_eq rooted').trans (if_pos paired'), ?_⟩
      rw [opened, ← membership_of_length length] at met
      exact (System.satisfied_iff S.hash _).mpr met
    | none =>
      rw [opened, Option.getD_none, List.length_nil] at count
      obtain rfl := List.length_eq_zero_iff.mp (show rest.length = 0 by omega)
      rw [opened] at paired
      refine ⟨sk, ar, none, c.tag, _, (Attester.synthesize_eq rooted').trans (if_pos paired), ?_⟩
      rw [opened] at met
      exact (System.satisfied_iff S.hash _).mpr met
  · rw [if_neg paired] at synthesized
    cases synthesized

end Keys

section Acceptance
variable {S : Suite} {relationOf : S.GrothKey → List S.Scalar → Prop}

theorem encodeEvidenceMessage_length (facts : CurveFacts S) (reply : EvidenceReply S) (sig : S.Signature) :
    (encodeEvidenceMessage S reply sig).length ≤ (S.grothKeyBytes reply.vk).length + 1024 := by
  have proof := facts.proof reply.proof
  have first := facts.signature reply.sig
  have point := facts.point reply.pk
  have scalar := facts.scalar reply.authorizedInfor
  have second := facts.signature reply.proofTimestampPeriodSignature
  have third := facts.signature sig
  have tag : msgEvidence.length = 4 := rfl
  simp only [encodeEvidenceMessage, encodeTypedMessage, encodeEvidenceBundle, appendProof, encodeProof, appendArkVk,
    encodeArkVk, appendSignature, encodeSignature, appendVerifyingKey, appendScalar, encodeScalar, tag,
    List.length_append, appendLenBytes_length, appendDuration_length]
  omega

theorem relation_acknowledged (ecdsa : S.EcdsaComplete) (trips : S.RoundTrips) (facts : CurveFacts S)
    (ideal : GrothIdeal S relationOf) {ctx : PublicContext S} {vk : S.GrothKey}
    (room : (S.grothKeyBytes vk).length + 1024 ≤ maxTcpFrameLen) (terms : Terms S)
    (related : relationOf vk (terms.inputs ctx.root)) :
    ∃ now payload reply sig, decodeEvidenceMessage S payload = .ok (reply, sig) ∧ reply.vk = vk ∧
      termsOf reply = terms ∧ verificationSuccess ∈ (handle now (some ctx) payload).replies := by
  obtain ⟨proof, proved⟩ := ideal.complete vk _ related
  obtain ⟨pk, authorizedInfor, timestamp, period⟩ := terms
  obtain ⟨key, rfl⟩ := facts.secret pk
  -- A reply about the terms, signed by the device itself, with the proof that exists.
  let clock := Duration.fromSecs 0 (by decide)
  let reply : EvidenceReply S :=
    { proof, vk, sig := S.sign key [], pk := S.verifyingKey key, timestamp, period, authorizedInfor,
      timestampAttester := clock, periodAttester := evidenceReplyAttesterPeriod,
      proofTimestampPeriodSignature := signProofTimestampPeriod S key proof clock evidenceReplyAttesterPeriod }
  let sig := S.sign key reply.toSigningBytesAllFields
  have made : EvidenceReply.new S (some clock) proof vk (S.sign key []) (S.verifyingKey key) timestamp period
      authorizedInfor key = .ok reply := rfl
  have short := Nat.le_trans (encodeEvidenceMessage_length facts reply sig) room
  refine ⟨some clock, encodeEvidenceMessage S reply sig, reply, sig,
    decodeEvidenceMessage_encode trips (Nat.le_trans short (by decide)), rfl, rfl, ?_⟩
  have sum : (Duration.fromSecs 0 (by decide)).checkedAdd evidenceReplyAttesterPeriod =
      some evidenceReplyAttesterPeriod := by decide
  have fresh : Fresh (some clock) reply := ⟨clock, evidenceReplyAttesterPeriod, rfl, sum, by decide⟩
  exact handle_signed ecdsa trips made short fresh proved

/-- What acknowledged frames with a key prove is the attestation statement exactly
when the relation of the key implies it. -/
theorem acknowledged_sound_iff (ecdsa : S.EcdsaComplete) (trips : S.RoundTrips) (facts : CurveFacts S)
    (ideal : GrothIdeal S relationOf) {ctx : PublicContext S} {vk : S.GrothKey}
    (room : (S.grothKeyBytes vk).length + 1024 ≤ maxTcpFrameLen) :
    (∀ now payload reply sig, decodeEvidenceMessage S payload = .ok (reply, sig) → reply.vk = vk →
        verificationSuccess ∈ (handle now (some ctx) payload).replies → Proves ctx.root (termsOf reply)) ↔
      ∀ terms : Terms S, relationOf vk (terms.inputs ctx.root) → Proves ctx.root terms := by
  constructor
  · intro sound terms related
    obtain ⟨now, payload, reply, sig, decoded, carried, same, acknowledged⟩ :=
      relation_acknowledged ecdsa trips facts ideal room terms related
    rw [← same]
    exact sound now payload reply sig decoded carried acknowledged
  · rintro implied now payload reply sig decoded rfl acknowledged
    -- Whatever is acknowledged has a verified proof, so its inputs belong to the relation.
    obtain ⟨-, reply', sig', decoded', passes⟩ := handle_success_iff.mp acknowledged
    obtain ⟨rfl, rfl⟩ := Prod.mk.inj (Except.ok.inj (decoded.symm.trans decoded'))
    exact implied _ (ideal.sound _ _ _ passes.proved)

theorem ideal_curveFacts : CurveFacts ideal where
  scalar _ := Nat.le_of_ble_eq_true rfl
  point _ := Nat.le_of_ble_eq_true rfl
  signature _ := Nat.le_of_ble_eq_true rfl
  proof _ := Nat.le_of_ble_eq_true rfl
  secret pk := ⟨pk, rfl⟩

def idealRelation (vk : ideal.GrothKey) (inputs : List ideal.Scalar) : Prop :=
  Shape.Satisfiable ideal.hash vk inputs

theorem ideal_grothIdeal : GrothIdeal ideal idealRelation where
  setup _ _ _ := Iff.rfl
  sound vk inputs proof verified := by
    change (if inputs.length = vk.inputs then some (decide _) else none) = some true at verified
    split at verified
    · change Shape.Satisfiable ideal.hash vk inputs
      exact of_decide_eq_true (Option.some.inj verified)
    · cases verified
  complete vk inputs satisfiable := by
    obtain ⟨witnesses, satisfied⟩ := satisfiable
    exact ⟨(), (if_pos satisfied.inputCount).trans (congrArg some (decide_eq_true ⟨witnesses, satisfied⟩))⟩

theorem ideal_hash_lt (a b : Fin 256) : (ideal.hash a b : Fin 256) < (128 : Fin 256) := by
  have bound := (a + 3 * b).isLt
  change (a + 3 * b).val / 2 < 128
  omega

/-- A key for the circuit without constraints gets any authorized information acknowledged. -/
theorem unconstrained_key_acknowledged :
    GrothIdeal ideal idealRelation ∧ ∃ (ctx : PublicContext ideal) (now : Option Duration) (payload : Bytes)
      (reply : EvidenceReply ideal) (sig : UInt8), Published ctx ∧
        decodeEvidenceMessage ideal payload = .ok (reply, sig) ∧
        verificationSuccess ∈ (handle now (some ctx) payload).replies ∧ ¬ Proves ctx.root (termsOf reply) := by
  refine ⟨ideal_grothIdeal, ⟨[(10 : Fin 256)], (9 : UInt8)⟩, ?_⟩
  let clock := Duration.fromSecs 0 (by decide)
  let terms : Terms ideal := ⟨(7 : UInt8), (200 : Fin 256), clock, clock⟩
  have related : idealRelation (⟨5, 0, []⟩ : Shape) (terms.inputs [(10 : Fin 256)]) :=
    ⟨[], rfl, rfl, by simp⟩
  obtain ⟨now, payload, reply, sig, decoded, -, same, acknowledged⟩ :=
    @relation_acknowledged ideal idealRelation ideal_ecdsaComplete ideal_roundTrips ideal_curveFacts ideal_grothIdeal
      ⟨[(10 : Fin 256)], (9 : UInt8)⟩ (⟨5, 0, []⟩ : Shape) (by decide) terms related
  refine ⟨now, payload, reply, sig, ⟨[10], List.cons_ne_nil _ _, ?_⟩, decoded, acknowledged, ?_⟩
  · exact (Shrubs.createBatchDevices_single ideal.hash (10 : Fin 256)).symm
  · rw [same]
    rintro ⟨sk, ar, path, tag, proves⟩
    have output := ((Attester.synthesize_satisfied_iff (List.cons_ne_nil _ _)).mp proves).2
    -- The circuit asks for a hash value, and 200 is none.
    have small := ideal_hash_lt (ideal.hash (ideal.hash (scalarOfPoint ideal (7 : UInt8)) ar) (0 : Fin 256))
      (0 : Fin 256)
    have half : (200 : Fin 256) < 128 := lt_of_eq_of_lt output.symm small
    exact absurd half (by decide)

theorem acknowledged_sound_iff_unconstrained :
    (∀ (now : Option Duration) (payload : Bytes) (reply : EvidenceReply ideal) (sig : UInt8),
        decodeEvidenceMessage ideal payload = .ok (reply, sig) → reply.vk = (⟨5, 0, []⟩ : Shape) →
        verificationSuccess ∈
          (handle now (some (⟨[(10 : Fin 256)], (9 : UInt8)⟩ : PublicContext ideal)) payload).replies →
        Proves (S := ideal) [(10 : Fin 256)] (termsOf reply)) ↔
      ∀ terms : Terms ideal, idealRelation (⟨5, 0, []⟩ : Shape) (terms.inputs [(10 : Fin 256)]) →
        Proves (S := ideal) [(10 : Fin 256)] terms :=
  @acknowledged_sound_iff ideal idealRelation ideal_ecdsaComplete ideal_roundTrips ideal_curveFacts ideal_grothIdeal
    ⟨[(10 : Fin 256)], (9 : UInt8)⟩ (⟨5, 0, []⟩ : Shape) (by decide)

end Acceptance

end UnifiedAttestation.RelyingParty
