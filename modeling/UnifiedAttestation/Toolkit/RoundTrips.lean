import UnifiedAttestation.Toolkit.Messages

/-! Every message is read back from its encoding.

The encoding is a vector, and so are the lists of a message; a vector holds at most
`isize::MAX` bytes, of which a scalar takes 32 and a byte vector 24.

The lemmas follow the nesting of the formats: a record is read field by field, a
typed message behind its tag, a response through its encryption.
-/

set_option autoImplicit false

namespace UnifiedAttestation.Toolkit

open Wire (Bytes Outcome Reader Reads toBeBytes utf8)

variable {S : Suite}

section Held

def PublicContext.Held (value : PublicContext S) : Prop := 32 * value.root.length ≤ isizeMax

def ResponseDeviceInfor.Held (value : ResponseDeviceInfor S) : Prop :=
  ∀ path ∈ value.shrubsPath, 32 * path.length ≤ isizeMax

def ResponseDeviceInforWire.Held (wire : ResponseDeviceInforWire) : Prop :=
  ∀ path ∈ wire.shrubsPath, 24 * path.length ≤ isizeMax

theorem ResponseDeviceInfor.Held.toWire {value : ResponseDeviceInfor S} (held : value.Held) :
    (responseDeviceInforToWire S value).Held := by
  rintro path member
  obtain ⟨scalars, stored, rfl⟩ := Option.map_eq_some_iff.mp member
  have bound := held scalars stored
  rw [List.length_map]
  omega

end Held

theorem publicContext_held_of_short {value : PublicContext S}
    (short : (encodePublicContext S value).length ≤ maxTcpFrameLen) : value.Held := by
  have wide : ∀ entry, 8 ≤ (appendScalar S entry).length := fun entry => by simp [appendScalar]
  have count := Wire.mul_length_le_flatMap (appendScalar S) wide value.root
  simp only [encodePublicContext, appendScalarVec, List.length_append, maxTcpFrameLen] at short
  rw [PublicContext.Held, isizeMax]
  omega

section Plain
variable (trips : S.RoundTrips)
include trips

theorem decodePublicContext_encode {value : PublicContext S}
    (fits : (encodePublicContext S value).length ≤ isizeMax) (held : value.Held) :
    decodePublicContext S (encodePublicContext S value) = .ok value := by
  have bound := fits
  simp only [encodePublicContext, List.length_append] at bound
  refine Reads.decode ?_
  exact (readScalarVec_reads trips (by omega) held).bind
    ((readVerifyingKey_reads trips (by omega)).bind_end (Reads.pure _))

theorem decodeEvidenceBundle_encode {reply : EvidenceReply S} {sig : S.Signature}
    (fits : (encodeEvidenceBundle S reply sig).length ≤ isizeMax) :
    decodeEvidenceBundle S (encodeEvidenceBundle S reply sig) = .ok (reply, sig) := by
  have bound := fits
  simp only [encodeEvidenceBundle, List.length_append] at bound
  refine Reads.decode ?_
  simp only [encodeEvidenceBundle, List.append_assoc]
  refine (readProof_reads trips (by omega)).bind ?_
  refine (readArkVk_reads trips (by omega)).bind ?_
  refine (readSignature_reads trips (by omega)).bind ?_
  refine (readVerifyingKey_reads trips (by omega)).bind ?_
  refine (readDuration_reads reply.timestamp).bind ?_
  refine (readDuration_reads reply.period).bind ?_
  refine (readScalar_reads trips (by omega)).bind ?_
  refine (readDuration_reads reply.timestampAttester).bind ?_
  refine (readDuration_reads reply.periodAttester).bind ?_
  refine (readSignature_reads trips (by omega)).bind ?_
  exact (readSignature_reads trips (by omega)).bind_end (Reads.pure (reply, sig))

end Plain

section Typed

theorem startsWith_typed (kind payload : Bytes) : startsWith (encodeTypedMessage kind payload) kind = true :=
  List.isPrefixOf_iff_prefix.mpr (List.prefix_append kind payload)

/-- The tags are four different bytes each. -/
theorem startsWith_other {kind other : Bytes} (same : kind.length = other.length) (different : kind ≠ other)
    (payload : Bytes) : startsWith (encodeTypedMessage kind payload) other = false := by
  rw [Bool.eq_false_iff]
  intro starts
  have front := List.isPrefixOf_iff_prefix.mp starts
  exact different ((List.prefix_of_prefix_length_le (List.prefix_append kind payload) front (by omega)).eq_of_length same)

variable (trips : S.RoundTrips)
include trips

theorem decodePublicContextMessage_encode {value : PublicContext S}
    (fits : (encodePublicContextMessage S value).length ≤ isizeMax) (held : value.Held) :
    decodePublicContextMessage S (encodePublicContextMessage S value) = .ok value := by
  simp only [encodePublicContextMessage, encodeTypedMessage, List.length_append] at fits
  rw [decodePublicContextMessage, encodePublicContextMessage, if_pos (startsWith_typed _ _), encodeTypedMessage,
    List.drop_left]
  exact decodePublicContext_encode trips (by omega) held

theorem decodeEvidenceMessage_encode {reply : EvidenceReply S} {sig : S.Signature}
    (fits : (encodeEvidenceMessage S reply sig).length ≤ isizeMax) :
    decodeEvidenceMessage S (encodeEvidenceMessage S reply sig) = .ok (reply, sig) := by
  simp only [encodeEvidenceMessage, encodeTypedMessage, List.length_append] at fits
  rw [decodeEvidenceMessage, encodeEvidenceMessage, if_pos (startsWith_typed _ _), encodeTypedMessage, List.drop_left]
  exact decodeEvidenceBundle_encode trips (by omega)

end Typed

section Responses

theorem readPathBytes_reads {path : List Bytes} (fits : (appendPathBytes path).length ≤ isizeMax)
    (held : 24 * path.length ≤ isizeMax) : Reads readPathBytes (appendPathBytes path) path := by
  have total := fits
  simp only [appendPathBytes, List.length_append, Wire.toBeBytes_length, isizeMax] at total
  have count := held
  rw [isizeMax] at count
  have each : ∀ bytes ∈ path, Reads readLenBytes (appendLenBytes bytes) bytes := by
    intro bytes member
    have inside := Wire.length_le_flatMap appendLenBytes member
    exact readLenBytes_reads (by unfold isizeMax; omega)
  refine (readU64_reads (by omega)).bind ?_
  exact Reads.lift_bind (Wire.reserve_ok held) (Wire.replicate_reads _ each)

theorem length_of_appendOption {β : Type} (append : β → Bytes) (value : Option β) {bound : Nat}
    (fits : (appendOption append value).length ≤ bound) : ∀ held ∈ value, (append held).length ≤ bound := by
  rintro held rfl
  simp only [appendOption, List.length_append] at fits
  omega

theorem decodeResponseDeviceInforWire_encode {wire : ResponseDeviceInforWire}
    (fits : (encodeResponseDeviceInforWire wire).length ≤ isizeMax) (held : wire.Held) :
    decodeResponseDeviceInforWire (encodeResponseDeviceInforWire wire) = .ok wire := by
  have bound := fits
  simp only [encodeResponseDeviceInforWire, List.length_append] at bound
  have sigs : ∀ held ∈ wire.sig, (appendLenBytes held).length ≤ isizeMax :=
    length_of_appendOption _ _ (by omega)
  have paths : ∀ held ∈ wire.shrubsPath, (appendPathBytes held).length ≤ isizeMax :=
    length_of_appendOption _ _ (by omega)
  have tags : ∀ held ∈ wire.shrubsTag, (appendBoolVec held).length ≤ isizeMax :=
    length_of_appendOption _ _ (by omega)
  refine Reads.decode ?_
  simp only [encodeResponseDeviceInforWire, List.append_assoc]
  refine (readLenBytes_reads (by omega)).bind ?_
  refine (readString_reads (by omega)).bind ?_
  refine (readDuration_reads wire.timestamp).bind ?_
  refine (readDuration_reads wire.period).bind ?_
  refine (readOption_reads _ fun held member => readLenBytes_reads (sigs held member)).bind ?_
  refine (readOption_reads _ fun path member => readPathBytes_reads (paths path member) (held path member)).bind ?_
  exact (readOption_reads _ fun held member => readBoolVec_reads _ (tags held member)).bind_end (Reads.pure wire)

end Responses

section Encrypted
variable (trips : S.RoundTrips)
include trips

theorem responseDeviceInforFromWire_toWire (value : ResponseDeviceInfor S) :
    responseDeviceInforFromWire S (responseDeviceInforToWire S value) = .ok value := by
  have scalar (entry : S.Scalar) : decodeScalar S (encodeScalar S entry) = .ok entry := by
    rw [decodeScalar, encodeScalar, trips.scalar]
    rfl
  have scalars (path : List S.Scalar) : (path.map (encodeScalar S)).mapM (decodeScalar S) = .ok path := by
    induction path with
    | nil => rfl
    | cons entry path ih => rw [List.map_cons, List.mapM_cons, scalar, ih]; rfl
  have signature (sig : S.Signature) : decodeSignature S (encodeSignature S sig) = .ok sig := by
    rw [decodeSignature, encodeSignature, trips.signature]
    rfl
  obtain ⟨verifyingKey, attesterAddr, timestamp, period, sig, shrubsPath, shrubsTag⟩ := value
  have path : (shrubsPath.map (List.map (encodeScalar S))).mapM (List.mapM (decodeScalar S)) =
      (.ok shrubsPath : Outcome _) := by
    cases shrubsPath with
    | none => rfl
    | some path => simp only [Option.map_some, Option.mapM_some, scalars]; rfl
  have sigs : (sig.map (encodeSignature S)).mapM (decodeSignature S) = (.ok sig : Outcome _) := by
    cases sig with
    | none => rfl
    | some sig => simp only [Option.map_some, Option.mapM_some, signature]; rfl
  simp only [responseDeviceInforFromWire, responseDeviceInforToWire, path, sigs, trips.point]
  rfl

theorem decodeResponseDeviceInfor_encode {value : ResponseDeviceInfor S}
    (fits : (encodeResponseDeviceInfor S value).length ≤ isizeMax) (held : value.Held) :
    decodeResponseDeviceInfor S (encodeResponseDeviceInfor S value) = .ok value := by
  rw [decodeResponseDeviceInfor, encodeResponseDeviceInfor, decodeResponseDeviceInforWire_encode fits held.toWire]
  exact responseDeviceInforFromWire_toWire trips value

theorem decodeVerifierResponse_encode {devRes : ResponseDeviceInfor S} {publicContext : PublicContext S}
    (fits : (encodeVerifierResponse S devRes publicContext).length ≤ isizeMax) (held : devRes.Held)
    (held' : publicContext.Held) :
    decodeVerifierResponse S (encodeVerifierResponse S devRes publicContext) = .ok (devRes, publicContext) := by
  have bound := fits
  simp only [encodeVerifierResponse, List.length_append] at bound
  have halves : Reads readVerifierResponse (encodeVerifierResponse S devRes publicContext)
      (encodeResponseDeviceInfor S devRes, encodePublicContext S publicContext) :=
    (readLenBytes_reads (by omega)).bind ((readLenBytes_reads (by omega)).bind_end (Reads.pure _))
  simp only [appendLenBytes_length] at bound
  have first : decodeResponseDeviceInfor S (encodeResponseDeviceInfor S devRes) = .ok devRes :=
    decodeResponseDeviceInfor_encode trips (by omega) held
  have second : decodePublicContext S (encodePublicContext S publicContext) = .ok publicContext :=
    decodePublicContext_encode trips (by omega) held'
  rw [decodeVerifierResponse, halves.decode]
  simp only [Wire.ok_bind, first, second]
  rfl

omit trips in
theorem decodeEncryptedMessage_encode {value : EncryptedMessage}
    (fits : (encodeEncryptedMessage value).length ≤ isizeMax) :
    decodeEncryptedMessage (encodeEncryptedMessage value) = .ok value := by
  have bound := fits
  simp only [encodeEncryptedMessage, List.length_append] at bound
  refine Reads.decode ?_
  simp only [encodeEncryptedMessage, List.append_assoc]
  refine (readLenBytes_reads (by omega)).bind ?_
  refine (readLenBytes_reads (by omega)).bind ?_
  exact (readLenBytes_reads (by omega)).bind_end (Reads.pure value)

variable (cipher : S.CipherComplete)
include cipher

theorem encodeEncryptedVerifierResponse_succeeds (draw : Draw S) (devRes : ResponseDeviceInfor S)
    (publicContext : PublicContext S) (devicePubkey : S.VerifyingKey) :
    ∃ frame, encodeEncryptedVerifierResponse S draw devRes publicContext devicePubkey = .ok frame := by
  obtain ⟨ciphertext, sealed, -, -⟩ := cipher.opens (deriveAesKey S (S.diffieHellman draw.ephemeral devicePubkey))
    draw.nonce (encodeVerifierResponse S devRes publicContext)
  simp only [encodeEncryptedVerifierResponse, encryptForDevicePubkey, trips.point, Wire.orBail_some, Wire.ok_bind,
    sealed]
  exact ⟨_, rfl⟩

/-- The parts of an encrypted frame, and that the ciphertext opens again. -/
theorem encodeEncryptedVerifierResponse_parts {draw : Draw S} {devRes : ResponseDeviceInfor S}
    {publicContext : PublicContext S} {devicePubkey : S.VerifyingKey} {frame : Bytes}
    (sent : encodeEncryptedVerifierResponse S draw devRes publicContext devicePubkey = .ok frame) :
    ∃ ciphertext,
      frame = encodeEncryptedMessage ⟨S.pointBytes (S.verifyingKey draw.ephemeral), draw.nonce, ciphertext⟩ ∧
      S.aesDecrypt (deriveAesKey S (S.diffieHellman draw.ephemeral devicePubkey)) draw.nonce ciphertext =
        some (encodeVerifierResponse S devRes publicContext) ∧
      (encodeVerifierResponse S devRes publicContext).length ≤ ciphertext.length := by
  obtain ⟨ciphertext, sealed, opens, longer⟩ := cipher.opens
    (deriveAesKey S (S.diffieHellman draw.ephemeral devicePubkey)) draw.nonce
    (encodeVerifierResponse S devRes publicContext)
  refine ⟨ciphertext, ?_, opens, longer⟩
  simp only [encodeEncryptedVerifierResponse, encryptForDevicePubkey, trips.point, Wire.orBail_some,
    Wire.ok_bind, sealed] at sent
  exact (Except.ok.inj sent).symm

/-- What a frame carries is no longer than the frame. -/
theorem encodeVerifierResponse_length_le {draw : Draw S} {devRes : ResponseDeviceInfor S}
    {publicContext : PublicContext S} {devicePubkey : S.VerifyingKey} {frame : Bytes}
    (sent : encodeEncryptedVerifierResponse S draw devRes publicContext devicePubkey = .ok frame) :
    (encodeVerifierResponse S devRes publicContext).length ≤ frame.length := by
  obtain ⟨ciphertext, rfl, -, longer⟩ := encodeEncryptedVerifierResponse_parts trips cipher sent
  simp only [encodeEncryptedMessage, List.length_append, appendLenBytes_length]
  omega

omit trips cipher in
/-- What fits into a frame is held by vectors. -/
theorem held_of_short {devRes : ResponseDeviceInfor S} {publicContext : PublicContext S}
    (short : (encodeVerifierResponse S devRes publicContext).length ≤ maxTcpFrameLen) :
    devRes.Held ∧ publicContext.Held := by
  simp only [encodeVerifierResponse, List.length_append, appendLenBytes_length, maxTcpFrameLen] at short
  refine ⟨fun path member => ?_, publicContext_held_of_short (by rw [maxTcpFrameLen]; omega)⟩
  have wide : ∀ bytes, 8 ≤ (appendLenBytes bytes).length := fun bytes => by simp
  have count := Wire.mul_length_le_flatMap appendLenBytes wide (path.map (encodeScalar S))
  have inside : (encodeResponseDeviceInfor S devRes).length ≤ maxTcpFrameLen := by rw [maxTcpFrameLen]; omega
  obtain ⟨verifyingKey, attesterAddr, timestamp, period, sig, shrubsPath, shrubsTag⟩ := devRes
  obtain rfl : shrubsPath = some path := member
  simp only [encodeResponseDeviceInfor, responseDeviceInforToWire, encodeResponseDeviceInforWire, Option.map_some,
    appendOption, appendPathBytes, List.length_append, maxTcpFrameLen] at inside
  rw [List.length_map] at count
  rw [isizeMax]
  omega

/-- A response that was encrypted for a device is read back with the device's key. -/
theorem decodeEncryptedVerifierResponse_encode {draw : Draw S} {devRes : ResponseDeviceInfor S}
    {publicContext : PublicContext S} {deviceKey : KeyInfor S} {frame : Bytes}
    (sent : encodeEncryptedVerifierResponse S draw devRes publicContext deviceKey.verifyingKey = .ok frame)
    (fits : frame.length ≤ isizeMax) (held : devRes.Held) (held' : publicContext.Held) :
    decodeEncryptedVerifierResponse S frame deviceKey = .ok (devRes, publicContext) := by
  have agreed := cipher.agree draw.ephemeral deviceKey.signingKey
  obtain ⟨ciphertext, rfl, opens, longer⟩ := encodeEncryptedVerifierResponse_parts trips cipher sent
  have decoded := decodeEncryptedMessage_encode fits
  simp only [encodeEncryptedMessage, List.length_append, appendLenBytes_length] at fits
  have plain : decodeVerifierResponse S (encodeVerifierResponse S devRes publicContext) = .ok (devRes, publicContext) :=
    decodeVerifierResponse_encode trips (by omega) held held'
  rw [deviceKey.paired] at opens
  simp only [decodeEncryptedVerifierResponse, decoded, Wire.ok_bind, decryptForDeviceKey, trips.point, trips.key,
    Wire.orBail_some, if_pos draw.nonce_length, ← agreed, opens, plain]

end Encrypted

end UnifiedAttestation.Toolkit
