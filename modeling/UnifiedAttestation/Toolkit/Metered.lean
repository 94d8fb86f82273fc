import UnifiedAttestation.Toolkit.Strictness
import UnifiedAttestation.Wire.Metering
import Mathlib.Algebra.Order.BigOperators.Group.List

/-! The decoders of the messages a peer can send, with the memory they ask for.

Every `vec![0; n]` and `Vec::with_capacity(n)` counts. The decoders of the crates work on
slices that were read already and are taken to ask for nothing.
-/

set_option autoImplicit false

namespace UnifiedAttestation.Toolkit

open Wire (Bytes Outcome Reader Reading Layout Metered Meters Claim Scanner Claimer toBeBytes fromBytesBe utf8 fromUtf8 bail orBail
  reserve)

namespace Metered

def readU64 : Metered Nat := Wire.Metered.number 8 "read fixed bytes failed"

def readU32 : Metered Nat := Wire.Metered.number 4 "read fixed bytes failed"

def readLenBytes : Metered Bytes := do
  let len ← readU64
  Wire.Metered.allocate isizeMax len
  Wire.Metered.take len "read length-prefixed bytes failed"

def readString : Metered String := do
  let bytes ← readLenBytes
  orBail "parse UTF-8 string failed" (fromUtf8 bytes)

def readDuration : Metered Duration := do
  let secs ← readU64
  let nanos ← readU32
  Duration.new secs nanos

def readDeviceClientInforWire : Metered DeviceClientInforWire := do
  let verifyingKey ← readLenBytes
  let measuredValue ← readString
  let merkleLeaf ← readLenBytes
  let timestamp ← readDuration
  let period ← readDuration
  pure { verifyingKey, measuredValue, merkleLeaf, timestamp, period }

def readSignedDeviceClientInforWire : Metered SignedDeviceClientInforWire := do
  let bytes ← readLenBytes
  let device ← Wire.Metered.within bytes readDeviceClientInforWire
  let signature ← readLenBytes
  pure { device, signature }

def readEncryptedMessage : Metered EncryptedMessage := do
  let ephemeralPublicKey ← readLenBytes
  let nonce ← readLenBytes
  let ciphertext ← readLenBytes
  pure { ephemeralPublicKey, nonce, ciphertext }

variable (S : Suite)

def readScalar : Metered S.Scalar := do
  let bytes ← readLenBytes
  decodeScalar S bytes

/-- A scalar takes 32 bytes of memory. -/
def readScalarVec : Metered (List S.Scalar) := do
  let len ← readU64
  Wire.Metered.allocate isizeMax (32 * len)
  Wire.Metered.replicate (readScalar S) len

def readSignature : Metered S.Signature := do
  let bytes ← readLenBytes
  decodeSignature S bytes

def readVerifyingKey : Metered S.VerifyingKey := do
  let bytes ← readLenBytes
  orBail "deserialize secp256k1 public key failed" (S.pointOf bytes)

def readProof : Metered S.Proof := do
  let bytes ← readLenBytes
  decodeProof S bytes

def readArkVk : Metered S.GrothKey := do
  let bytes ← readLenBytes
  decodeArkVk S bytes

def readPublicContext : Metered (PublicContext S) := do
  let root ← readScalarVec S
  let verifierPk ← readVerifyingKey S
  pure { root, verifierPk }

def readEvidenceBundle : Metered (EvidenceReply S × S.Signature) := do
  let proof ← readProof S
  let vk ← readArkVk S
  let sig ← readSignature S
  let pk ← readVerifyingKey S
  let timestamp ← readDuration
  let period ← readDuration
  let authorizedInfor ← readScalar S
  let timestampAttester ← readDuration
  let periodAttester ← readDuration
  let proofTimestampPeriodSignature ← readSignature S
  let deviceSignature ← readSignature S
  let evidenceReply : EvidenceReply S :=
    { proof, vk, sig, pk, timestamp, period, authorizedInfor, timestampAttester, periodAttester,
      proofTimestampPeriodSignature }
  pure (evidenceReply, deviceSignature)

end Metered

section Fields

/-- The metered reader of a layout. -/
def MetersLayout {β : Type} (metered : Metered β) (reader : Reader β) (layout : Layout) : Prop :=
  Meters isizeMax metered reader layout.scan layout.claims

theorem readNumber_toOption (count : Nat) (bytes : Bytes) :
    ((fromBytesBe <$> Wire.take count "read fixed bytes failed" : Reader Nat) bytes).toOption =
      Wire.number count bytes := by
  change ((Wire.take count "read fixed bytes failed" bytes).bind fun pair =>
    Except.ok (fromBytesBe pair.1, pair.2)).toOption = _
  unfold Wire.take Wire.number Wire.cut
  split <;> rfl

/-- A reader that goes on with a number. -/
theorem meters_number {β : Type} {count : Nat} {next : Nat → Metered β} {next' : Nat → Reader β}
    {scan : Nat → Scanner} {claims : Nat → Claimer} (meters : ∀ n, Meters isizeMax (next n) (next' n) (scan n) (claims n)) :
    Meters isizeMax (Wire.Metered.number count "read fixed bytes failed" >>= next)
      ((fromBytesBe <$> readExact count) >>= next')
      (fun bytes => (Wire.number count bytes).bind fun parts => scan parts.1 parts.2)
      (fun bytes => (Wire.number count bytes).elim [] fun parts => claims parts.1 parts.2) := by
  have number := ((@Meters.take isizeMax count "read fixed bytes failed").map fromBytesBe).bind meters
  simp only [bind_pure_comp, readNumber_toOption, List.nil_append] at number
  exact number

theorem readLenBytes_meters : MetersLayout Metered.readLenBytes readLenBytes bytesLayout := by
  have taken := @meters_number _ 8 _ _ _ _ fun len =>
    (@Meters.take isizeMax len "read length-prefixed bytes failed").allocate len
  refine taken.respell ?_ ?_
  · intro bytes
    simp only [bytesLayout, Layout.claims]
    cases Wire.number 8 bytes <;> rfl
  · intro bytes
    simp only [bytesLayout, Layout.scan, Wire.slice]
    cases Wire.number 8 bytes with
    | none => rfl
    | some parts =>
      simp only [Option.bind_eq_bind, Option.bind_some]
      cases Wire.cut parts.1 parts.2 <;> rfl

theorem readLenBytes_toOption {bytes : Bytes} (fit : Wire.AllFit isizeMax (bytesLayout.claims bytes)) :
    (readLenBytes bytes).toOption = Wire.slice bytes := by
  have stops := readLenBytes_meters.stops bytes fit
  cases read : readLenBytes bytes with
  | ok pair => exact (readLenBytes_eq_ok read).symm
  | error fault =>
    rw [read, Except.toOption, Option.map_none, Option.map_eq_none_iff] at stops
    cases sliced : Wire.slice bytes with
    | none => rfl
    | some parts => simp [bytesLayout, Layout.scan, sliced] at stops

/-- A field with a decoder of its own, which refuses what the form refuses. -/
theorem convert_meters {β : Type} {read : Bytes → Option β} {form : Bytes → Option Bytes} (message : String)
    (agree : ∀ content, (form content).isSome = (read content).isSome) :
    MetersLayout (do let bytes ← Metered.readLenBytes; orBail message (read bytes))
      (do let bytes ← readLenBytes; orBail message (read bytes)) (.blob form) := by
  have calm : ∀ content, orBail message (read content) ≠ .error .panic := by
    intro content
    cases read content <;> simp [orBail, bail]
  have converted := readLenBytes_meters.bind fun content => Meters.lift (calm content)
  have claimed : ∀ bytes, bytesLayout.claims bytes ++ ((readLenBytes bytes).toOption.elim [] fun _ => []) =
      bytesLayout.claims bytes := by
    intro bytes
    cases (readLenBytes bytes).toOption <;> exact List.append_nil _
  refine converted.congr ?_ ?_
  · intro bytes unfit
    rwa [claimed] at unfit
  · intro bytes fit
    rw [claimed] at fit ⊢
    refine ⟨rfl, ?_⟩
    rw [readLenBytes_toOption fit]
    simp only [Layout.scan, Option.bind_eq_bind]
    cases Wire.slice bytes with
    | none => rfl
    | some parts =>
      have same := agree parts.1
      simp only [Option.bind_some]
      cases formed : form parts.1 <;> cases decoded : read parts.1 <;> simp [formed, decoded] at same
      · rfl
      · rfl

theorem spelled_meters {β : Type} {read : Bytes → Option β} {write : β → Bytes} {message : String} :
    MetersLayout (do let bytes ← Metered.readLenBytes; orBail message (read bytes))
      (do let bytes ← readLenBytes; orBail message (read bytes)) (spelled read write) :=
  convert_meters message fun content => by rw [Option.isSome_map]

theorem readString_meters : MetersLayout Metered.readString readString textLayout :=
  convert_meters "parse UTF-8 string failed" fun content => by rw [Option.isSome_map]

theorem durationNew_meters (secs nanos : Nat) :
    Meters isizeMax (liftM (Duration.new secs nanos)) (liftM (Duration.new secs nanos))
      (fun bytes => if secs + nanos / 10 ^ 9 < 2 ^ 64 then some ⟨[], bytes, []⟩ else none)
      (fun _ => [.seconds (secs + nanos / 10 ^ 9)]) := by
  intro bytes allocated
  by_cases fits : secs + nanos / 10 ^ 9 < 2 ^ 64
  · simp only [Duration.new, dif_pos fits, if_pos fits]
    exact ⟨by simpa [Wire.AllFit, Claim.Fits] using fits, ⟨_, rfl, rfl⟩, rfl⟩
  · simp only [Duration.new, dif_neg fits, if_neg fits]
    exact ⟨by simpa [Wire.AllFit, Claim.Fits] using fits, _, rfl⟩

theorem readDuration_meters : MetersLayout Metered.readDuration readDuration .duration := by
  have read := @meters_number _ 8 _ _ _ _ fun secs =>
    @meters_number _ 4 _ _ _ _ fun nanos => durationNew_meters secs nanos
  refine read.respell ?_ ?_
  · intro bytes
    simp only [Layout.claims]
    cases Wire.number 8 bytes with
    | none => rfl
    | some parts => cases inner : Wire.number 4 parts.2 <;> simp [inner]
  · intro bytes
    simp only [Layout.scan, Wire.scanDuration, Option.bind_eq_bind]
    cases Wire.number 8 bytes with
    | none => rfl
    | some parts =>
      simp only [Option.bind_some]
      cases Wire.number 4 parts.2 with
      | none => rfl
      | some parts' =>
        simp only [Option.bind_some]
        split <;> rfl

end Fields

section Decoders

/-- Decode from the start of the bytes: the outcome, and the memory asked for. -/
def meteredDecode {β : Type} (metered : Metered β) (bytes : Bytes) : Outcome β × Nat :=
  let (outcome, tally) := metered ⟨bytes, 0⟩
  (outcome, tally.allocated)

/-- Decode behind the tag of a message. -/
def meteredTyped {β : Type} (kind : Bytes) (refusal : String) (metered : Metered β) (bytes : Bytes) : Outcome β × Nat :=
  if startsWith bytes kind then meteredDecode metered (bytes.drop kind.length) else (bail refusal, 0)

/-- What the claims of some bytes decide about a decoder. -/
structure Decided {β : Type} (decoded : Outcome β) (metered : Outcome β × Nat) (claims : List Claim) (length : Nat) :
    Prop where
  erased : metered.1 = decoded
  panics : decoded = .error .panic ↔ ¬ Wire.AllFit isizeMax claims
  allocated : Wire.AllFit isizeMax claims → metered.2 = Wire.total claims
  modest : Wire.AllBacked 4 claims → Wire.total claims ≤ 44 * length

theorem MetersLayout.decided {β : Type} {metered : Metered β} {reader : Reader β} {layout : Layout}
    (meters : MetersLayout metered reader layout) (solid : layout.Solid) (light : layout.weight 4 ≤ 44) (bytes : Bytes) :
    Decided (Wire.decode reader bytes) (meteredDecode metered bytes) (layout.claims bytes) bytes.length := by
  have modest : Wire.AllBacked 4 (layout.claims bytes) → Wire.total (layout.claims bytes) ≤ 44 * bytes.length := by
    intro backed
    exact Nat.le_trans ((Layout.thrifty solid (by decide) bytes).2 backed) (Nat.mul_le_mul_right _ light)
  have whole := meters bytes 0
  rw [Nat.zero_add] at whole
  cases read : reader bytes with
  | error fault =>
    have decoded : Wire.decode reader bytes = .error fault := by
      rw [Wire.decode, read]
      rfl
    rw [read] at whole
    cases fault with
    | error chain =>
      obtain ⟨fit, _, rest, ran⟩ := whole
      have made : meteredDecode metered bytes = (.error (.error chain), Wire.total (layout.claims bytes)) := by
        rw [meteredDecode, ran]
      rw [decoded, made]
      exact ⟨rfl, by simp [fit], fun _ => rfl, modest⟩
    | panic =>
      obtain ⟨unfit, tally, ran⟩ := whole
      have made : meteredDecode metered bytes = (.error .panic, tally.allocated) := by rw [meteredDecode, ran]
      rw [decoded, made]
      exact ⟨rfl, iff_of_true rfl unfit, fun fit => absurd fit unfit, modest⟩
  | ok pair =>
    have decoded : Wire.decode reader bytes = .ok pair.1 := by
      rw [Wire.decode, read]
      rfl
    rw [read] at whole
    obtain ⟨fit, _, ran⟩ := whole
    have made : meteredDecode metered bytes = (.ok pair.1, Wire.total (layout.claims bytes)) := by
      rw [meteredDecode, ran]
    rw [decoded, made]
    exact ⟨rfl, by simp [fit], fun _ => rfl, modest⟩

/-- Behind a tag the claims are those of what follows; without it there are none. -/
theorem Decided.typed {β : Type} {metered : Metered β} {decode : Bytes → Outcome β} {claims : Bytes → List Claim}
    (decided : ∀ bytes, Decided (decode bytes) (meteredDecode metered bytes) (claims bytes) bytes.length)
    (kind : Bytes) (refusal : String) (bytes : Bytes) :
    Decided (if startsWith bytes kind then decode (bytes.drop kind.length) else bail refusal)
      (meteredTyped kind refusal metered bytes) (if startsWith bytes kind then claims (bytes.drop kind.length) else [])
      bytes.length := by
  unfold meteredTyped
  split
  · have inner := decided (bytes.drop kind.length)
    refine ⟨inner.erased, inner.panics, inner.allocated, fun modest => ?_⟩
    have shorter : (bytes.drop kind.length).length ≤ bytes.length := by simp
    exact Nat.le_trans (inner.modest modest) (Nat.mul_le_mul_left 44 shorter)
  · exact ⟨rfl, by simp [bail], fun _ => rfl, fun _ => by simp⟩

end Decoders

section Parts

theorem vector_meters {β : Type} {metered : Metered β} {reader : Reader β} {layout : Layout} (size : Nat)
    (meters : MetersLayout metered reader layout) :
    MetersLayout (do let len ← Metered.readU64; Wire.Metered.allocate isizeMax (size * len); metered.replicate len)
      (do let len ← readU64; reserve isizeMax (size * len); Wire.replicate reader len) (.vector size layout) := by
  have read := @meters_number _ 8 _ _ _ _ fun len => (meters.repeated len).allocate (size * len)
  refine read.respell ?_ ?_
  · intro bytes
    simp only [Layout.claims]
    cases Wire.number 8 bytes <;> rfl
  · intro bytes
    simp only [Layout.scan, Option.bind_eq_bind]
    cases Wire.number 8 bytes with
    | none => rfl
    | some parts =>
      simp only [Option.bind_some, Option.map_map]
      rfl

/-- A slice with fields of its own. -/
theorem nested_meters {β : Type} {metered : Metered β} {reader : Reader β} {layout : Layout}
    (meters : MetersLayout metered reader layout) :
    MetersLayout (do let bytes ← Metered.readLenBytes; Wire.Metered.within bytes metered)
      (do let bytes ← readLenBytes; Wire.decode reader bytes) (.nested layout) := by
  have front : ∀ bytes, Wire.AllFit isizeMax ((Layout.nested layout).claims bytes) →
      Wire.AllFit isizeMax (bytesLayout.claims bytes) := by
    intro bytes fit
    simp only [Layout.claims, bytesLayout] at fit ⊢
    cases number : Wire.number 8 bytes with
    | none => exact Wire.allFit_nil isizeMax
    | some parts =>
      rw [number] at fit
      exact (Wire.allFit_cons isizeMax _ []).mpr ⟨((Wire.allFit_cons isizeMax _ _).mp fit).1, Wire.allFit_nil isizeMax⟩
  have stepped : ∀ bytes, Wire.AllFit isizeMax (bytesLayout.claims bytes) →
      (Layout.nested layout).claims bytes =
          bytesLayout.claims bytes ++ ((readLenBytes bytes).toOption.elim [] fun pair => layout.claims pair.1) ∧
        ((Layout.nested layout).scan bytes).map Reading.rest =
          ((readLenBytes bytes).toOption.bind fun pair =>
            (layout.scan pair.1).map fun _ => (⟨[], pair.2, []⟩ : Reading)).map Reading.rest := by
    intro bytes fit
    rw [readLenBytes_toOption fit]
    simp only [Layout.claims, Layout.scan, bytesLayout, Wire.slice]
    cases Wire.number 8 bytes with
    | none => exact ⟨rfl, rfl⟩
    | some parts =>
      simp only [Option.bind_eq_bind, Option.bind_some]
      cases Wire.cut parts.1 parts.2 with
      | none => exact ⟨rfl, rfl⟩
      | some parts' =>
        refine ⟨rfl, ?_⟩
        simp only [Option.bind_some]
        cases layout.scan parts'.1 <;> rfl
  refine (readLenBytes_meters.bind fun content => meters.within content).congr ?_ ?_
  · intro bytes unfit fit
    rw [(stepped bytes (front bytes fit)).1] at fit
    exact unfit fit
  · intro bytes fit
    exact stepped bytes ((Wire.allFit_append isizeMax _ _).mp fit).1

end Parts

section Messages

/-- The messages that are decoded from a frame. -/
inductive PeerMessage where
  | deviceInfor | publicContext | evidence | encrypted
  deriving DecidableEq, Repr

theorem readDeviceClientInforWire_meters :
    MetersLayout Metered.readDeviceClientInforWire readDeviceClientInforWire deviceClientInforWireLayout :=
  readLenBytes_meters.seq fun _ => readString_meters.seq fun _ => readLenBytes_meters.seq fun _ =>
    readDuration_meters.seq fun _ => readDuration_meters.seq fun _ => Meters.pure _

theorem readSignedDeviceClientInforWire_meters :
    MetersLayout Metered.readSignedDeviceClientInforWire readSignedDeviceClientInforWire
      signedDeviceClientInforWireLayout := by
  have whole := (nested_meters readDeviceClientInforWire_meters).seq fun device =>
    readLenBytes_meters.seq fun signature => Meters.pure (SignedDeviceClientInforWire.mk device signature)
  simp only [bind_assoc] at whole
  exact whole

theorem readEncryptedMessage_meters :
    MetersLayout Metered.readEncryptedMessage readEncryptedMessage encryptedMessageLayout :=
  readLenBytes_meters.seq fun _ => readLenBytes_meters.seq fun _ => readLenBytes_meters.seq fun _ => Meters.pure _

variable (S : Suite)

theorem readScalar_meters : MetersLayout (Metered.readScalar S) (readScalar S) (scalarLayout S) := spelled_meters

theorem readSignature_meters : MetersLayout (Metered.readSignature S) (readSignature S) (signatureLayout S) :=
  spelled_meters

theorem readVerifyingKey_meters :
    MetersLayout (Metered.readVerifyingKey S) (readVerifyingKey S) (verifyingKeyLayout S) := spelled_meters

theorem readProof_meters : MetersLayout (Metered.readProof S) (readProof S) (proofLayout S) := spelled_meters

theorem readArkVk_meters : MetersLayout (Metered.readArkVk S) (readArkVk S) (arkVkLayout S) := spelled_meters

theorem readPublicContext_meters :
    MetersLayout (Metered.readPublicContext S) (readPublicContext S) (publicContextLayout S) :=
  (vector_meters 32 (readScalar_meters S)).seq fun _ => (readVerifyingKey_meters S).seq fun _ => Meters.pure _

theorem readEvidenceBundle_meters :
    MetersLayout (Metered.readEvidenceBundle S) (readEvidenceBundle S) (evidenceBundleLayout S) :=
  (readProof_meters S).seq fun _ => (readArkVk_meters S).seq fun _ => (readSignature_meters S).seq fun _ =>
    (readVerifyingKey_meters S).seq fun _ => readDuration_meters.seq fun _ => readDuration_meters.seq fun _ =>
    (readScalar_meters S).seq fun _ => readDuration_meters.seq fun _ => readDuration_meters.seq fun _ =>
    (readSignature_meters S).seq fun _ => (readSignature_meters S).seq fun _ => Meters.pure _

end Messages

section Peers
variable (S : Suite)

def PeerMessage.Value : PeerMessage → Type
  | .deviceInfor => SignedDeviceClientInforWire
  | .publicContext => PublicContext S
  | .evidence => EvidenceReply S × S.Signature
  | .encrypted => EncryptedMessage

def PeerMessage.decode : (message : PeerMessage) → Bytes → Outcome (message.Value S)
  | .deviceInfor, bytes => decodeSignedDeviceClientInforMessage bytes
  | .publicContext, bytes => decodePublicContextMessage S bytes
  | .evidence, bytes => decodeEvidenceMessage S bytes
  | .encrypted, bytes => decodeEncryptedMessage bytes

def PeerMessage.metered : (message : PeerMessage) → Bytes → Outcome (message.Value S) × Nat
  | .deviceInfor, bytes =>
    meteredTyped msgDeviceInfor "not a DeviceClientInfor message" Metered.readSignedDeviceClientInforWire bytes
  | .publicContext, bytes =>
    meteredTyped msgPublicContext "not a PublicContext message" (Metered.readPublicContext S) bytes
  | .evidence, bytes => meteredTyped msgEvidence "not an Evidence message" (Metered.readEvidenceBundle S) bytes
  | .encrypted, bytes => meteredDecode Metered.readEncryptedMessage bytes

/-- What the bytes of a message claim; without their tag they claim nothing. -/
def PeerMessage.claims : PeerMessage → Bytes → List Claim
  | .deviceInfor, bytes => if startsWith bytes msgDeviceInfor then
      signedDeviceClientInforWireLayout.claims (bytes.drop msgDeviceInfor.length) else []
  | .publicContext, bytes => if startsWith bytes msgPublicContext then
      (publicContextLayout S).claims (bytes.drop msgPublicContext.length) else []
  | .evidence, bytes => if startsWith bytes msgEvidence then
      (evidenceBundleLayout S).claims (bytes.drop msgEvidence.length) else []
  | .encrypted, bytes => encryptedMessageLayout.claims bytes

/-- The claims of a message whose memory is a small multiple of the bytes that follow. -/
def PeerMessage.Modest (message : PeerMessage) (bytes : Bytes) : Prop := Wire.AllBacked 4 (message.claims S bytes)

variable {S}

/-- The claims in the bytes of a message decide what its decoder does with memory and time. -/
theorem PeerMessage.decided (message : PeerMessage) (bytes : Bytes) :
    Decided (message.decode S bytes) (message.metered S bytes) (message.claims S bytes) bytes.length := by
  cases message with
  | deviceInfor =>
    refine Decided.typed (fun bytes => readSignedDeviceClientInforWire_meters.decided ?_ ?_ bytes) _ _ bytes
    · simp [Layout.Solid, signedDeviceClientInforWireLayout, deviceClientInforWireLayout, Layout.fields, bytesLayout,
        textLayout]
    · decide
  | publicContext =>
    refine Decided.typed (fun bytes => (readPublicContext_meters S).decided ?_ ?_ bytes) _ _ bytes
    · simp [Layout.Solid, publicContextLayout, Layout.fields, scalarLayout, verifyingKeyLayout, spelled, Layout.least]
    · simp [publicContextLayout, Layout.fields, scalarLayout, verifyingKeyLayout, spelled, Layout.weight]
  | evidence =>
    refine Decided.typed (fun bytes => (readEvidenceBundle_meters S).decided ?_ ?_ bytes) _ _ bytes
    · simp [Layout.Solid, evidenceBundleLayout, Layout.fields, scalarLayout, verifyingKeyLayout, signatureLayout,
        proofLayout, arkVkLayout, spelled]
    · simp [evidenceBundleLayout, Layout.fields, scalarLayout, verifyingKeyLayout, signatureLayout, proofLayout,
        arkVkLayout, spelled, Layout.weight]
  | encrypted =>
    refine readEncryptedMessage_meters.decided ?_ ?_ bytes
    · simp [Layout.Solid, encryptedMessageLayout, Layout.fields, bytesLayout]
    · decide

theorem allFit_of_modest {claims : List Claim} {limit : Nat} (backed : Wire.AllBacked 4 claims)
    (small : Wire.total claims ≤ limit) : Wire.AllFit limit claims := by
  intro claim held
  cases claim with
  | seconds count => exact backed _ held
  | memory size available =>
    have part : size ≤ Wire.total claims :=
      List.le_sum_of_mem (List.mem_map_of_mem (f := Claim.size) held)
    exact Nat.le_trans part small

/-- A decoder neither panics nor asks for more than a multiple of the input exactly when every
claim of the input fits and the claimed memory is within the multiple. A frame whose length
prefixes announce no more than can follow them is decoded with 44 times its length. -/
theorem PeerMessage.decode_safe_iff (message : PeerMessage) (bytes : Bytes) :
    (message.metered S bytes).1 = message.decode S bytes ∧
      (∀ factor, (message.decode S bytes ≠ .error .panic ∧ (message.metered S bytes).2 ≤ factor * bytes.length) ↔
        Wire.AllFit isizeMax (message.claims S bytes) ∧ Wire.total (message.claims S bytes) ≤ factor * bytes.length) ∧
      (bytes.length ≤ maxTcpFrameLen → message.Modest S bytes →
        message.decode S bytes ≠ .error .panic ∧ (message.metered S bytes).2 ≤ 44 * bytes.length) := by
  have decided := message.decided (S := S) bytes
  have safe_iff : ∀ factor,
      (message.decode S bytes ≠ .error .panic ∧ (message.metered S bytes).2 ≤ factor * bytes.length) ↔
        Wire.AllFit isizeMax (message.claims S bytes) ∧
          Wire.total (message.claims S bytes) ≤ factor * bytes.length := by
    intro factor
    rw [ne_eq, decided.panics, not_not]
    refine and_congr_right fun fit => ?_
    rw [decided.allocated fit]
  refine ⟨decided.erased, safe_iff, fun short modest => ?_⟩
  have small := decided.modest modest
  rw [safe_iff]
  refine ⟨allFit_of_modest modest (Nat.le_trans small ?_), small⟩
  rw [maxTcpFrameLen] at short
  rw [isizeMax]
  omega

/-- The tag of a submission and eight bytes. -/
def announced (len : Nat) : Bytes := msgDeviceInfor ++ toBeBytes 8 len

/-- Twelve bytes make the decoder panic, or ask for half of what can be asked for. -/
theorem announced_lengths :
    (announced (2 ^ 64 - 1)).length = 12 ∧
      PeerMessage.decode reference .deviceInfor (announced (2 ^ 64 - 1)) = .error .panic ∧
      (announced (2 ^ 62)).length = 12 ∧
      PeerMessage.metered reference .deviceInfor (announced (2 ^ 62)) =
        (bail "read length-prefixed bytes failed", 2 ^ 62) :=
  ⟨rfl, rfl, rfl, rfl⟩

end Peers

end UnifiedAttestation.Toolkit
