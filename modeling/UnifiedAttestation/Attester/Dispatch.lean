import UnifiedAttestation.Attester.Session
import UnifiedAttestation.Toolkit.Framing
import UnifiedAttestation.Toolkit.Reference

/-! What kind of update a frame of the verifier is taken for.

An encrypted response carries no tag. It begins with the length of a public key, so its first
byte is zero, which no tag and no rejection begins with.
-/

set_option autoImplicit false

namespace UnifiedAttestation.Attester

open Wire (Bytes Outcome utf8 bail context)
open Toolkit

section Kinds

inductive UpdateKind where
  | rejection | refresh | response
  deriving DecidableEq, Repr

/-- The branch that `read_response_and_persist` takes on a frame. -/
def classify (bytes : Bytes) : UpdateKind :=
  if startsWith bytes (utf8 "verification failed:") || startsWith bytes (utf8 "error:") then .rejection
  else if startsWith bytes msgPublicContext then .refresh
  else .response

variable (S : Suite)

/-- What each of the branches does with the bytes. -/
def readAs (devKey : KeyInfor S) (devInfor : DeviceClientInfor S) (bytes : Bytes) :
    UpdateKind → Outcome (List (SessionFile × Bytes))
  | .rejection => bail ("verifier rejected DeviceClientInfor: " ++ fromUtf8Lossy bytes.length bytes)
  | .refresh => do
    let ctx ← context "decode PublicContext failed" (decodePublicContextMessage S bytes)
    pure [(.publicContext, encodePublicContext S ctx)]
  | .response => do
    let (devRes, publicContext) ← context "decrypt verifier response failed"
      (decodeEncryptedVerifierResponse S bytes devKey)
    pure
      [(.devRes, encodeResponseDeviceInfor S devRes), (.publicContext, encodePublicContext S publicContext),
        (.devConfig, encodeDeviceConfigInfor S (DeviceConfigInfor.new S devKey devInfor devRes))]

theorem readResponse_classified (devKey : KeyInfor S) (devInfor : DeviceClientInfor S) {frame : Bytes}
    (short : frame.length ≤ maxTcpFrameLen) :
    readResponse S devKey devInfor frame = readAs S devKey devInfor frame (classify frame) := by
  simp only [readResponse, tcpReadFrame_short short, Wire.context_ok, Wire.ok_bind, classify]
  split
  · rfl
  · split <;> rfl

/-- What the verifier sends to an attester after its submission. -/
inductive Update where
  | response (draw : Draw S) (devRes : ResponseDeviceInfor S) (publicContext : PublicContext S)
      (devicePubkey : S.VerifyingKey)
  | refresh (publicContext : PublicContext S)

variable {S}

def Update.frame : Update S → Outcome Bytes
  | .response draw devRes publicContext devicePubkey =>
    encodeEncryptedVerifierResponse S draw devRes publicContext devicePubkey
  | .refresh publicContext => .ok (encodePublicContextMessage S publicContext)

def Update.kind : Update S → UpdateKind
  | .response .. => .response
  | .refresh _ => .refresh

/-- The ephemeral key of a response is encoded with a length that SEC1 has, compressed or not. -/
def Update.Sec1 : Update S → Prop
  | .response draw _ _ _ =>
    (S.pointBytes (S.verifyingKey draw.ephemeral)).length = 33 ∨ (S.pointBytes (S.verifyingKey draw.ephemeral)).length = 65
  | .refresh _ => True

theorem classify_of_head {bytes : Bytes} (front : bytes.head? = some 0) : classify bytes = .response := by
  have failed : startsWith bytes (utf8 "verification failed:") = false :=
    startsWith_head front (k := 118) (by decide) (by decide)
  have error : startsWith bytes (utf8 "error:") = false := startsWith_head front (k := 101) (by decide) (by decide)
  have typed : startsWith bytes msgPublicContext = false := startsWith_head front (k := 80) (by decide) (by decide)
  simp only [classify, failed, error, typed, Bool.or_self, Bool.false_eq_true, if_false]

theorem Update.classify_frame {update : Update S} {frame : Bytes} (sent : update.frame = .ok frame)
    (sec1 : update.Sec1) : classify frame = update.kind := by
  cases update with
  | refresh publicContext =>
    obtain rfl := Except.ok.inj sent
    have front : (encodePublicContextMessage S publicContext).head? = some 80 := rfl
    have failed : startsWith (encodePublicContextMessage S publicContext) (utf8 "verification failed:") = false :=
      startsWith_head front (k := 118) (by decide) (by decide)
    have error : startsWith (encodePublicContextMessage S publicContext) (utf8 "error:") = false :=
      startsWith_head front (k := 101) (by decide) (by decide)
    have typed : startsWith (encodePublicContextMessage S publicContext) msgPublicContext = true :=
      startsWith_typed _ _
    simp only [classify, failed, error, typed, Bool.or_self, Bool.false_eq_true, if_false, if_true]
    rfl
  | response draw devRes publicContext devicePubkey =>
    obtain ⟨encrypted, sealed, made⟩ := Wire.bind_eq_ok.mp sent
    obtain rfl := Except.ok.inj made
    obtain ⟨recipient, _, sealed⟩ := Wire.bind_eq_ok.mp sealed
    obtain ⟨ciphertext, _, same⟩ := Wire.bind_eq_ok.mp sealed
    obtain rfl := Except.ok.inj same
    apply classify_of_head
    rw [encodeEncryptedMessage, List.append_assoc]
    refine appendLenBytes_head ?_ _
    rcases sec1 with length | length <;> rw [length] <;> decide

end Kinds

section Streams
variable (S : Suite)

/-- The frames that the verifier writes for its updates. -/
def Frames (updates : List (Update S)) (frames : List Bytes) : Prop :=
  List.Forall₂ (fun update frame => update.frame = .ok frame) updates frames

theorem Frames.classified {updates : List (Update S)} {frames : List Bytes} (written : Frames S updates frames)
    (sec1 : ∀ update ∈ updates, update.Sec1) : frames.map classify = updates.map Update.kind := by
  induction written with
  | nil => rfl
  | cons sent _ ih =>
    rw [List.map_cons, List.map_cons, Update.classify_frame sent (sec1 _ (by simp)),
      ih fun update held => sec1 update (by simp [held])]

theorem Frames.read (devKey : KeyInfor S) (devInfor : DeviceClientInfor S) {updates : List (Update S)}
    {frames : List Bytes} (written : Frames S updates frames) (sec1 : ∀ update ∈ updates, update.Sec1)
    (short : ∀ frame ∈ frames, frame.length ≤ maxTcpFrameLen) :
    List.Forall₂ (fun update frame =>
      readResponse S devKey devInfor frame = readAs S devKey devInfor frame update.kind) updates frames := by
  induction written with
  | nil => exact .nil
  | cons sent _ ih =>
    refine .cons ?_ (ih (fun update held => sec1 update (by simp [held])) fun frame held => short frame (by simp [held]))
    rw [readResponse_classified S devKey devInfor (short _ (by simp)), Update.classify_frame sent (sec1 _ (by simp))]

/-- Nothing is lost or confused between the ends of a connection. Payloads written one behind
the other are read in order however the stream is chunked; a stream that ends inside a frame
gives the payloads before it and then fails; and every update is read as the kind that it was
sent as. -/
theorem updates_read_as_sent :
    (∀ (payloads : List Bytes) (stream : List Bytes), (∀ payload ∈ payloads, payload.length ≤ maxTcpFrameLen) →
        stream.flatten = payloads.flatMap tcpSendFrame →
        readFrames payloads.length stream = payloads.map .ok) ∧
      (∀ (payloads : List Bytes) (payload part : Bytes) (stream : List Bytes),
        (∀ payload ∈ payloads, payload.length ≤ maxTcpFrameLen) → payload.length ≤ maxTcpFrameLen →
        part <+: tcpSendFrame payload → part ≠ tcpSendFrame payload →
        stream.flatten = payloads.flatMap tcpSendFrame ++ part →
        ∃ fault, readFrames (payloads.length + 1) stream = payloads.map .ok ++ [.error fault]) ∧
      ∀ (updates : List (Update S)) (frames : List Bytes), Frames S updates frames →
        (∀ update ∈ updates, update.Sec1) →
        frames.map classify = updates.map Update.kind ∧
          ((∀ frame ∈ frames, frame.length ≤ maxTcpFrameLen) →
            (∀ stream : List Bytes, stream.flatten = frames.flatMap tcpSendFrame →
              readFrames updates.length stream = frames.map .ok) ∧
            ∀ (devKey : KeyInfor S) (devInfor : DeviceClientInfor S),
              List.Forall₂ (fun update frame =>
                readResponse S devKey devInfor frame = readAs S devKey devInfor frame update.kind) updates frames) := by
  have whole : ∀ (payloads : List Bytes) (stream : List Bytes),
      (∀ payload ∈ payloads, payload.length ≤ maxTcpFrameLen) → stream.flatten = payloads.flatMap tcpSendFrame →
      readFrames payloads.length stream = payloads.map .ok := by
    intro payloads stream short arrives
    obtain ⟨fault, read⟩ := readFrames_whole short arrives payloads.length
    simpa using read
  refine ⟨whole, ?_, ?_⟩
  · intro payloads payload part stream short short' front cut arrives
    obtain ⟨fault, read⟩ := readFrames_sent short short' front cut arrives (payloads.length + 1)
    refine ⟨fault, ?_⟩
    simpa [List.take_of_length_le (Nat.le_succ payloads.length)] using read
  · intro updates frames written sec1
    have kinds := written.classified S sec1
    refine ⟨kinds, fun short => ⟨fun stream arrives => ?_, fun devKey devInfor => ?_⟩⟩
    · rw [List.Forall₂.length_eq written]
      exact whole frames stream short arrives
    · exact written.read S devKey devInfor sec1 short

end Streams

section Both

/-- The opening of the only leaf for a new device, and the roots of the next batch. -/
def bothUpdates : List (Update compressed) :=
  [.response ⟨(1 : UInt8), List.replicate 12 0, zeroNonce_length⟩
      { verifyingKey := (7 : UInt8), attesterAddr := "127.0.0.1:9000", timestamp := seconds 10, period := seconds 20
        sig := none, shrubsPath := none, shrubsTag := none }
      ⟨[compressed.ofNat 10], (9 : UInt8)⟩ (7 : UInt8),
    .refresh ⟨[compressed.ofNat 20, compressed.ofNat 10], (9 : UInt8)⟩]

theorem bothUpdates_frames : ∃ frames, Frames compressed bothUpdates frames ∧
    (∀ frame ∈ frames, frame.length ≤ maxTcpFrameLen) ∧ ∀ update ∈ bothUpdates, update.Sec1 := by
  refine ⟨[_, _], .cons rfl (.cons rfl .nil), by decide +kernel, ?_⟩
  simp [bothUpdates, Update.Sec1]

/-- Two updates and the first two bytes of an empty payload. -/
theorem updates_read_as_sent_both : ∃ frames, Frames compressed bothUpdates frames ∧
    frames.map classify = [.response, .refresh] ∧
    (∀ stream : List Bytes, stream.flatten = frames.flatMap tcpSendFrame → readFrames 2 stream = frames.map .ok) ∧
    (∀ stream : List Bytes, stream.flatten = frames.flatMap tcpSendFrame ++ [0, 0] →
      ∃ fault, readFrames 3 stream = frames.map .ok ++ [.error fault]) ∧
    ∀ (devKey : KeyInfor compressed) (devInfor : DeviceClientInfor compressed),
      List.Forall₂ (fun update frame =>
        readResponse compressed devKey devInfor frame = readAs compressed devKey devInfor frame update.kind)
        bothUpdates frames := by
  obtain ⟨frames, written, short, sec1⟩ := bothUpdates_frames
  have count : frames.length = 2 := (List.Forall₂.length_eq written).symm
  obtain ⟨-, cut, sent⟩ := updates_read_as_sent compressed
  obtain ⟨kinds, arrives⟩ := sent bothUpdates frames written sec1
  obtain ⟨whole, read⟩ := arrives short
  refine ⟨frames, written, kinds, whole, fun stream torn => ?_, read⟩
  have fails := cut frames [] [0, 0] stream short (by decide) (by decide) (by decide) torn
  rwa [count] at fails

end Both

end UnifiedAttestation.Attester
