import UnifiedAttestation.Attester.Session
import UnifiedAttestation.RelyingParty.Listener
import UnifiedAttestation.Verifier.Daemon

/-! The encodings as a whole: every one is undone by its decoder, and what is signed
determines what was meant, for one purpose only.
-/

set_option autoImplicit false

namespace UnifiedAttestation.Protocol

open Wire (Bytes Outcome Reads toBeBytes utf8)
open Toolkit
open Attester (DeviceConfigInfor encodeDeviceConfigInfor loadDeviceConfigInfor loadPublicContext)
open Verifier (verifierSigningBytes)
open RelyingParty (verifierMessage)

section Codecs
variable {S : Suite}

/-- Decoding undoes encoding, for every value that vectors hold and whose encoding
is held by a vector. -/
def Undoes {β : Type} (decode : Bytes → Outcome β) (encode : β → Bytes) (held : β → Prop) : Prop :=
  ∀ value, (encode value).length ≤ isizeMax → held value → decode (encode value) = .ok value

def Anything {β : Type} : β → Prop := fun _ => True

theorem codecs_undone (trips : S.RoundTrips) :
    Undoes decodeDeviceClientInforWire encodeDeviceClientInforWire Anything ∧
    Undoes decodeSignedDeviceClientInforWire encodeSignedDeviceClientInforWire Anything ∧
    Undoes decodeEncryptedMessage encodeEncryptedMessage Anything ∧
    Undoes decodeResponseDeviceInforWire encodeResponseDeviceInforWire ResponseDeviceInforWire.Held ∧
    Undoes (decodeResponseDeviceInfor S) (encodeResponseDeviceInfor S) ResponseDeviceInfor.Held ∧
    Undoes (decodePublicContext S) (encodePublicContext S) PublicContext.Held ∧
    Undoes (decodeEvidenceBundle S) (fun bundle => encodeEvidenceBundle S bundle.1 bundle.2) Anything ∧
    Undoes (decodeVerifierResponse S) (fun pair => encodeVerifierResponse S pair.1 pair.2)
      (fun pair => pair.1.Held ∧ pair.2.Held) ∧
    Undoes decodeSignedDeviceClientInforMessage encodeSignedDeviceClientInforMessage Anything ∧
    Undoes (decodePublicContextMessage S) (encodePublicContextMessage S) PublicContext.Held ∧
    Undoes (decodeEvidenceMessage S) (fun bundle => encodeEvidenceMessage S bundle.1 bundle.2) Anything ∧
    Undoes (fun file => loadPublicContext S (some file)) (encodePublicContext S) PublicContext.Held ∧
    Undoes (fun file => loadDeviceConfigInfor S (some file)) (encodeDeviceConfigInfor S) DeviceConfigInfor.Held := by
  refine ⟨?_, ?_, ?_, ?_, ?_, ?_, ?_, ?_, ?_, ?_, ?_, ?_, ?_⟩ <;> intro value fits held
  · exact decodeDeviceClientInforWire_encode fits
  · exact decodeSignedDeviceClientInforWire_encode fits
  · exact decodeEncryptedMessage_encode fits
  · exact decodeResponseDeviceInforWire_encode fits held
  · exact decodeResponseDeviceInfor_encode trips fits held
  · exact decodePublicContext_encode trips fits held
  · exact decodeEvidenceBundle_encode trips fits
  · exact decodeVerifierResponse_encode trips fits held.1 held.2
  · exact decodeSignedDeviceClientInforMessage_encode fits
  · exact decodePublicContextMessage_encode trips fits held
  · exact decodeEvidenceMessage_encode trips fits
  · exact Attester.loadPublicContext_encode trips fits held
  · exact Attester.loadDeviceConfigInfor_encode trips fits held

theorem codecs_undone_reference :
    reference.RoundTrips ∧ Undoes (fun file => loadDeviceConfigInfor reference (some file))
      (encodeDeviceConfigInfor reference) DeviceConfigInfor.Held :=
  ⟨reference_roundTrips, (codecs_undone reference_roundTrips).2.2.2.2.2.2.2.2.2.2.2.2⟩

end Codecs

section Peeling

theorem appendLenBytes_peel {bytes bytes' rest rest' : Bytes}
    (fits : (appendLenBytes bytes ++ rest).length ≤ isizeMax)
    (same : appendLenBytes bytes ++ rest = appendLenBytes bytes' ++ rest') :
    bytes = bytes' ∧ rest = rest' ∧ rest.length ≤ isizeMax := by
  have fits' := fits
  rw [same] at fits'
  rw [List.length_append] at fits fits'
  have read : Reads readLenBytes (appendLenBytes bytes) bytes := readLenBytes_reads (by omega)
  have read' : Reads readLenBytes (appendLenBytes bytes') bytes' := readLenBytes_reads (by omega)
  obtain ⟨values, rests⟩ := read.unique read' same
  exact ⟨values, rests, by omega⟩

theorem appendField_peel {name : String} {bytes bytes' rest rest' : Bytes}
    (fits : (appendField name bytes ++ rest).length ≤ isizeMax)
    (same : appendField name bytes ++ rest = appendField name bytes' ++ rest') :
    bytes = bytes' ∧ rest = rest' ∧ rest.length ≤ isizeMax := by
  simp only [appendField, List.append_assoc] at fits same
  obtain ⟨-, same, fits⟩ := appendLenBytes_peel fits same
  exact appendLenBytes_peel fits same

/-- Fields with different names have different bytes, whatever they carry. -/
theorem appendField_apart {name name' : String} {bytes bytes' rest rest' : Bytes} (different : name ≠ name')
    (fits : (appendField name bytes ++ rest).length ≤ isizeMax) :
    appendField name bytes ++ rest ≠ appendField name' bytes' ++ rest' := by
  intro same
  simp only [appendField, List.append_assoc] at fits same
  exact different (Wire.utf8_injective (appendLenBytes_peel fits same).1)

theorem appendDuration_peel {duration duration' : Duration} {rest rest' : Bytes}
    (same : appendDuration duration ++ rest = appendDuration duration' ++ rest') :
    duration = duration' ∧ rest = rest' :=
  (readDuration_reads duration).unique (readDuration_reads duration') same

theorem serializeDuration_injective : Function.Injective serializeDuration := by
  intro duration duration' same
  have whole : appendDuration duration ++ [] = appendDuration duration' ++ [] := by
    rw [List.append_nil, List.append_nil]
    exact same
  exact (appendDuration_peel whole).1

theorem toBeBytes_injective {n n' : Nat} (fits : n < 2 ^ 64) (fits' : n' < 2 ^ 64)
    (same : toBeBytes 8 n = toBeBytes 8 n') : n = n' := by
  have numbers := congrArg Wire.fromBytesBe same
  rwa [Wire.fromBytesBe_toBeBytes (by omega), Wire.fromBytesBe_toBeBytes (by omega)] at numbers

end Peeling

section Signed
variable {S : Suite}

theorem toSigningBytesAllFields_injective (injective : S.Injective) {reply reply' : EvidenceReply S}
    (fits : reply.toSigningBytesAllFields.length ≤ isizeMax)
    (same : reply.toSigningBytesAllFields = reply'.toSigningBytesAllFields) : reply = reply' := by
  rw [← List.append_nil reply.toSigningBytesAllFields] at fits same
  rw [← List.append_nil reply'.toSigningBytesAllFields] at same
  simp only [EvidenceReply.toSigningBytesAllFields, List.append_assoc] at fits same
  obtain ⟨proof, same, fits⟩ := appendField_peel fits same
  obtain ⟨vk, same, fits⟩ := appendField_peel fits same
  obtain ⟨sig, same, fits⟩ := appendField_peel fits same
  obtain ⟨pk, same, fits⟩ := appendField_peel fits same
  obtain ⟨timestamp, same, fits⟩ := appendField_peel fits same
  obtain ⟨period, same, fits⟩ := appendField_peel fits same
  obtain ⟨authorizedInfor, same, fits⟩ := appendField_peel fits same
  obtain ⟨timestampAttester, same, fits⟩ := appendField_peel fits same
  obtain ⟨periodAttester, same, fits⟩ := appendField_peel fits same
  obtain ⟨freshness, -, -⟩ := appendField_peel fits same
  cases reply
  cases reply'
  simp only [EvidenceReply.mk.injEq]
  exact ⟨injective.proof proof, injective.grothKey vk, injective.signature sig, injective.point pk,
    serializeDuration_injective timestamp, serializeDuration_injective period, injective.scalar authorizedInfor,
    serializeDuration_injective timestampAttester, serializeDuration_injective periodAttester,
    injective.signature freshness⟩

theorem proofTimestampPeriodSigningBytes_injective (injective : S.Injective) {proof proof' : S.Proof}
    {timestamp timestamp' period period' : Duration}
    (fits : (proofTimestampPeriodSigningBytes S proof timestamp period).length ≤ isizeMax)
    (same : proofTimestampPeriodSigningBytes S proof timestamp period =
      proofTimestampPeriodSigningBytes S proof' timestamp' period') :
    proof = proof' ∧ timestamp = timestamp' ∧ period = period' := by
  rw [← List.append_nil (proofTimestampPeriodSigningBytes S proof timestamp period)] at fits same
  rw [← List.append_nil (proofTimestampPeriodSigningBytes S proof' timestamp' period')] at same
  simp only [proofTimestampPeriodSigningBytes, List.append_assoc] at fits same
  obtain ⟨proof, same, fits⟩ := appendField_peel fits same
  obtain ⟨timestamp, same, fits⟩ := appendField_peel fits same
  obtain ⟨period, -, -⟩ := appendField_peel fits same
  exact ⟨injective.proof proof, serializeDuration_injective timestamp, serializeDuration_injective period⟩

theorem encodeDeviceClientInforWire_injective {wire wire' : DeviceClientInforWire}
    (fits : (encodeDeviceClientInforWire wire).length ≤ isizeMax)
    (same : encodeDeviceClientInforWire wire = encodeDeviceClientInforWire wire') : wire = wire' := by
  have decoded := decodeDeviceClientInforWire_encode fits
  rw [same, decodeDeviceClientInforWire_encode (same ▸ fits)] at decoded
  exact (Except.ok.inj decoded).symm

/-- The whole reply and its freshness part differ in the name of their second field. -/
theorem allFields_ne_proofTimestampPeriod {reply : EvidenceReply S} {proof : S.Proof} {timestamp period : Duration}
    (fits : reply.toSigningBytesAllFields.length ≤ isizeMax) :
    reply.toSigningBytesAllFields ≠ proofTimestampPeriodSigningBytes S proof timestamp period := by
  intro same
  simp only [EvidenceReply.toSigningBytesAllFields, proofTimestampPeriodSigningBytes, List.append_assoc] at fits same
  obtain ⟨-, same, fits⟩ := appendField_peel fits same
  exact appendField_apart (by decide) fits same

/-- Behind its first three parts a device encoding has the 24 bytes of its durations
left, while the others have named fields left. -/
theorem deviceWire_rest {wire : DeviceClientInforWire} {first second third rest : Bytes}
    (fits : (encodeDeviceClientInforWire wire).length ≤ isizeMax)
    (same : encodeDeviceClientInforWire wire =
      appendLenBytes first ++ (appendLenBytes second ++ (appendLenBytes third ++ rest))) : rest.length = 24 := by
  simp only [encodeDeviceClientInforWire, appendString, List.append_assoc] at fits same
  obtain ⟨-, same, fits⟩ := appendLenBytes_peel fits same
  obtain ⟨-, same, fits⟩ := appendLenBytes_peel fits same
  obtain ⟨-, same, fits⟩ := appendLenBytes_peel fits same
  rw [← same, List.length_append, appendDuration_length, appendDuration_length]

theorem deviceWire_ne_allFields {wire : DeviceClientInforWire} {reply : EvidenceReply S}
    (fits : (encodeDeviceClientInforWire wire).length ≤ isizeMax) :
    encodeDeviceClientInforWire wire ≠ reply.toSigningBytesAllFields := by
  intro same
  simp only [EvidenceReply.toSigningBytesAllFields, appendField, List.append_assoc] at same
  have rest := deviceWire_rest fits same
  simp only [List.length_append, appendLenBytes_length] at rest
  omega

theorem deviceWire_ne_proofTimestampPeriod {wire : DeviceClientInforWire} {proof : S.Proof}
    {timestamp period : Duration} (fits : (encodeDeviceClientInforWire wire).length ≤ isizeMax) :
    encodeDeviceClientInforWire wire ≠ proofTimestampPeriodSigningBytes S proof timestamp period := by
  intro same
  simp only [proofTimestampPeriodSigningBytes, appendField, List.append_assoc] at same
  have rest := deviceWire_rest fits same
  have width (duration : Duration) : (serializeDuration duration).length = 12 := appendDuration_length duration
  simp only [List.length_append, appendLenBytes_length, width] at rest
  omega

/-- The decimal text stands between parts of fixed length. -/
theorem verifierSigningBytes_injective (injective : S.Injective) {devRes devRes' : ResponseDeviceInfor S}
    {infor infor' : S.Scalar} (same : verifierSigningBytes devRes infor = verifierSigningBytes devRes' infor') :
    devRes.verifyingKey = devRes'.verifyingKey ∧ infor = infor' ∧
      devRes.timestamp.secs = devRes'.timestamp.secs ∧ devRes.period.secs = devRes'.period.secs := by
  simp only [verifierSigningBytes] at same
  obtain ⟨same, period⟩ := List.append_inj' same (by simp)
  obtain ⟨same, timestamp⟩ := List.append_inj' same (by simp)
  obtain ⟨point, shown⟩ := List.append_inj same (by rw [injective.pointLength, injective.pointLength])
  exact ⟨injective.point point, injective.shown shown,
    toBeBytes_injective devRes.timestamp.secs_lt devRes'.timestamp.secs_lt timestamp,
    toBeBytes_injective devRes.period.secs_lt devRes'.period.secs_lt period⟩

/-- Each of the three messages an attester key signs determines its fields, no message
is another's, and the verifier's message is the one the relying party rebuilds. -/
theorem signed_encodings_separate (injective : S.Injective) :
    (∀ reply reply' : EvidenceReply S, reply.toSigningBytesAllFields.length ≤ isizeMax →
      reply.toSigningBytesAllFields = reply'.toSigningBytesAllFields → reply = reply') ∧
    (∀ (proof proof' : S.Proof) (timestamp timestamp' period period' : Duration),
      (proofTimestampPeriodSigningBytes S proof timestamp period).length ≤ isizeMax →
      proofTimestampPeriodSigningBytes S proof timestamp period =
        proofTimestampPeriodSigningBytes S proof' timestamp' period' →
      proof = proof' ∧ timestamp = timestamp' ∧ period = period') ∧
    (∀ reply : EvidenceReply S, RelyingParty.proofTimestampPeriodSigningBytes reply =
      proofTimestampPeriodSigningBytes S reply.proof reply.timestampAttester reply.periodAttester) ∧
    (∀ wire wire' : DeviceClientInforWire, (encodeDeviceClientInforWire wire).length ≤ isizeMax →
      encodeDeviceClientInforWire wire = encodeDeviceClientInforWire wire' → wire = wire') ∧
    (∀ (wire : DeviceClientInforWire) (reply : EvidenceReply S) (proof : S.Proof) (timestamp period : Duration),
      (encodeDeviceClientInforWire wire).length ≤ isizeMax → reply.toSigningBytesAllFields.length ≤ isizeMax →
      encodeDeviceClientInforWire wire ≠ reply.toSigningBytesAllFields ∧
      encodeDeviceClientInforWire wire ≠ proofTimestampPeriodSigningBytes S proof timestamp period ∧
      reply.toSigningBytesAllFields ≠ proofTimestampPeriodSigningBytes S proof timestamp period) ∧
    (∀ (devRes devRes' : ResponseDeviceInfor S) (infor infor' : S.Scalar),
      verifierSigningBytes devRes infor = verifierSigningBytes devRes' infor' →
      devRes.verifyingKey = devRes'.verifyingKey ∧ infor = infor' ∧
        devRes.timestamp.secs = devRes'.timestamp.secs ∧ devRes.period.secs = devRes'.period.secs) ∧
    (∀ (devRes : ResponseDeviceInfor S) (infor : S.Scalar) (reply : EvidenceReply S),
      reply.pk = devRes.verifyingKey → reply.authorizedInfor = infor → reply.timestamp = devRes.timestamp →
      reply.period = devRes.period → verifierMessage reply = verifierSigningBytes devRes infor) := by
  refine ⟨?_, ?_, ?_, ?_, ?_, ?_, ?_⟩
  · intro reply reply' fits same
    exact toSigningBytesAllFields_injective injective fits same
  · intro proof proof' timestamp timestamp' period period' fits same
    exact proofTimestampPeriodSigningBytes_injective injective fits same
  · exact RelyingParty.proofTimestampPeriodSigningBytes_eq
  · intro wire wire' fits same
    exact encodeDeviceClientInforWire_injective fits same
  · intro wire reply proof timestamp period fits fits'
    exact ⟨deviceWire_ne_allFields fits, deviceWire_ne_proofTimestampPeriod fits,
      allFields_ne_proofTimestampPeriod fits'⟩
  · intro devRes devRes' infor infor' same
    exact verifierSigningBytes_injective injective same
  · intro devRes infor reply pk authorizedInfor timestamp period
    rw [verifierMessage, verifierSigningBytes, pk, authorizedInfor, timestamp, period]

theorem signed_encodings_separate_compressed :
    compressed.Injective ∧ ∀ reply reply' : EvidenceReply compressed, reply.toSigningBytesAllFields.length ≤ isizeMax →
      reply.toSigningBytesAllFields = reply'.toSigningBytesAllFields → reply = reply' :=
  ⟨compressed_injective, (signed_encodings_separate compressed_injective).1⟩

end Signed

end UnifiedAttestation.Protocol
