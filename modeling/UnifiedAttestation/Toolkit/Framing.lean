import UnifiedAttestation.Toolkit.RoundTrips
import UnifiedAttestation.Wire.Streams

/-! Frames on a TCP stream: a length of eight bytes and the payload. -/

set_option autoImplicit false

namespace UnifiedAttestation.Toolkit

open Wire (Bytes Outcome ReadsChunked repeatedly toBeBytes fromBytesBe bail orBail)

section Frames

/-- The bytes that `tcp_send_frame` writes. -/
def tcpSendFrame (payload : Bytes) : Bytes := toBeBytes 8 payload.length ++ payload

/-- `tcp_read_frame` on the chunks that are still to arrive. -/
def tcpReadFrameFrom (stream : List Bytes) : Outcome (Bytes × List Bytes) := do
  let (lenBuf, stream) ← orBail "read TCP frame length failed" (Wire.readExact 8 stream)
  let len := fromBytesBe lenBuf
  if maxTcpFrameLen < len then bail s!"TCP frame too large: {len} bytes"
  else orBail "read TCP frame payload failed" (Wire.readExact len stream)

def readFrames (count : Nat) (stream : List Bytes) : List (Outcome Bytes) := repeatedly tcpReadFrameFrom count stream

theorem tcpReadFrameFrom_arrived {payload : Bytes} (fits : payload.length < 2 ^ 64) {stream : List Bytes} {rest : Bytes}
    (arrives : stream.flatten = tcpSendFrame payload ++ rest) :
    (tcpReadFrameFrom stream).map Prod.fst = tcpReadFrame payload ∧
      ∀ read stream', tcpReadFrameFrom stream = .ok (read, stream') → stream'.flatten = rest := by
  rw [tcpSendFrame, List.append_assoc] at arrives
  obtain ⟨stream', length, arrives'⟩ := Wire.readExact_append arrives
  rw [Wire.toBeBytes_length] at length
  obtain ⟨stream'', content, arrives''⟩ := Wire.readExact_append arrives'
  have number : fromBytesBe (toBeBytes 8 payload.length) = payload.length := Wire.fromBytesBe_toBeBytes (by omega)
  unfold tcpReadFrameFrom tcpReadFrame
  simp only [length, Wire.orBail_some, Wire.ok_bind, number]
  split
  · exact ⟨rfl, fun read left failed => by cases failed⟩
  · rw [content, Wire.orBail_some]
    refine ⟨rfl, ?_⟩
    rintro read left same
    cases same
    exact arrives''

theorem tcpReadFrameFrom_reads {payload : Bytes} (short : payload.length ≤ maxTcpFrameLen) :
    ReadsChunked tcpReadFrameFrom (tcpSendFrame payload) payload := by
  intro stream rest arrives
  have fits : payload.length < 2 ^ 64 := Nat.lt_of_le_of_lt short (by decide)
  obtain ⟨read, left⟩ := tcpReadFrameFrom_arrived fits arrives
  rw [tcpReadFrame, if_neg (Nat.not_lt.mpr short)] at read
  obtain ⟨pair, found, same⟩ := Wire.map_eq_ok.mp read
  refine ⟨pair.2, ?_, left _ _ found⟩
  rw [found, ← same]

theorem tcpReadFrameFrom_cut {payload part : Bytes} (short : payload.length ≤ maxTcpFrameLen)
    (front : part <+: tcpSendFrame payload) (cut : part ≠ tcpSendFrame payload) {stream : List Bytes}
    (arrives : stream.flatten = part) : ∃ fault, tcpReadFrameFrom stream = .error fault := by
  have lengths : part.length < (tcpSendFrame payload).length :=
    Nat.lt_of_le_of_ne front.length_le fun same => cut (front.eq_of_length same)
  simp only [tcpSendFrame, List.length_append, Wire.toBeBytes_length] at lengths
  by_cases header : part.length < 8
  · have missing : Wire.readExact 8 stream = none := Wire.readExact_short (arrives ▸ header)
    simp only [tcpReadFrameFrom, missing]
    exact ⟨_, rfl⟩
  · -- the length is there, and part of the payload
    obtain ⟨content, rfl⟩ : ∃ content, part = toBeBytes 8 payload.length ++ content := by
      have inside := List.prefix_of_prefix_length_le (List.prefix_append (toBeBytes 8 payload.length) payload) front
        (by simpa using header)
      obtain ⟨content, same⟩ := inside
      exact ⟨content, same.symm⟩
    obtain ⟨stream', length, arrives'⟩ := Wire.readExact_append arrives
    rw [Wire.toBeBytes_length] at length
    rw [List.length_append, Wire.toBeBytes_length] at lengths
    have number : fromBytesBe (toBeBytes 8 payload.length) = payload.length :=
      Wire.fromBytesBe_toBeBytes (Nat.lt_of_le_of_lt short (by decide))
    have missing : Wire.readExact payload.length stream' = none := Wire.readExact_short (by rw [arrives']; omega)
    simp only [tcpReadFrameFrom, length, Wire.orBail_some, Wire.ok_bind, number, if_neg (Nat.not_lt.mpr short), missing]
    exact ⟨_, rfl⟩

/-- Payloads that were sent, and a part of one more frame, are read back however the stream is
chunked: the payloads in order, and then a failure. -/
theorem readFrames_sent {payloads : List Bytes} (short : ∀ payload ∈ payloads, payload.length ≤ maxTcpFrameLen)
    {payload part : Bytes} (short' : payload.length ≤ maxTcpFrameLen) (front : part <+: tcpSendFrame payload)
    (cut : part ≠ tcpSendFrame payload) {stream : List Bytes}
    (arrives : stream.flatten = payloads.flatMap tcpSendFrame ++ part) (count : Nat) :
    ∃ fault, readFrames count stream =
      (payloads.take count).map .ok ++ if payloads.length < count then [.error fault] else [] :=
  Wire.repeatedly_reads (fun payload held => tcpReadFrameFrom_reads (short payload held))
    (fun _ arrived => tcpReadFrameFrom_cut short' front cut arrived) arrives count

theorem readFrames_whole {payloads : List Bytes} (short : ∀ payload ∈ payloads, payload.length ≤ maxTcpFrameLen)
    {stream : List Bytes} (arrives : stream.flatten = payloads.flatMap tcpSendFrame) (count : Nat) :
    ∃ fault, readFrames count stream =
      (payloads.take count).map .ok ++ if payloads.length < count then [.error fault] else [] := by
  have missing : ([] : Bytes) ≠ tcpSendFrame [] := by decide
  exact @readFrames_sent payloads short [] [] (by decide) List.nil_prefix missing stream
    (by rw [arrives, List.append_nil]) count

end Frames

end UnifiedAttestation.Toolkit
