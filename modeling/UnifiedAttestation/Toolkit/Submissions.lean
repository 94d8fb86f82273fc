import UnifiedAttestation.Toolkit.RoundTrips

/-! The attester's submission to the verifier: its signed wire form, and the checks
the verifier makes before it queues the attester.
-/

set_option autoImplicit false

namespace UnifiedAttestation.Toolkit

open Wire (Bytes Outcome Reader Reads utf8 bail orBail)

section Records

structure DeviceClientInforWire where
  verifyingKey : Bytes
  measuredValue : String
  merkleLeaf : Bytes
  timestamp : Duration
  period : Duration

structure SignedDeviceClientInforWire where
  device : DeviceClientInforWire
  signature : Bytes

variable (S : Suite)

def deviceClientInforToWire (value : DeviceClientInfor S) : DeviceClientInforWire where
  verifyingKey := S.pointBytes value.verifyingKey
  measuredValue := value.measuredValue
  merkleLeaf := encodeScalar S value.merkleLeaf
  timestamp := value.timestamp
  period := value.period

def deviceClientInforFromWire (wire : DeviceClientInforWire) : Outcome (DeviceClientInfor S) := do
  let verifyingKey ← orBail "decode DeviceClientInforWire verifying_key failed" (S.pointOf wire.verifyingKey)
  let merkleLeaf ← decodeScalar S wire.merkleLeaf
  pure
    { verifyingKey, measuredValue := wire.measuredValue, merkleLeaf, timestamp := wire.timestamp,
      period := wire.period }

end Records

section Encodings

def encodeDeviceClientInforWire (value : DeviceClientInforWire) : Bytes :=
  appendLenBytes value.verifyingKey ++
  appendString value.measuredValue ++
  appendLenBytes value.merkleLeaf ++
  appendDuration value.timestamp ++
  appendDuration value.period

def readDeviceClientInforWire : Reader DeviceClientInforWire := do
  let verifyingKey ← readLenBytes
  let measuredValue ← readString
  let merkleLeaf ← readLenBytes
  let timestamp ← readDuration
  let period ← readDuration
  pure { verifyingKey, measuredValue, merkleLeaf, timestamp, period }

def decodeDeviceClientInforWire (bytes : Bytes) : Outcome DeviceClientInforWire :=
  Wire.decode readDeviceClientInforWire bytes

def encodeDeviceClientInfor (S : Suite) (value : DeviceClientInfor S) : Bytes :=
  encodeDeviceClientInforWire (deviceClientInforToWire S value)

def encodeSignedDeviceClientInforWire (value : SignedDeviceClientInforWire) : Bytes :=
  appendLenBytes (encodeDeviceClientInforWire value.device) ++ appendLenBytes value.signature

def readSignedDeviceClientInforWire : Reader SignedDeviceClientInforWire := do
  let bytes ← readLenBytes
  let device ← decodeDeviceClientInforWire bytes
  let signature ← readLenBytes
  pure { device, signature }

def decodeSignedDeviceClientInforWire (bytes : Bytes) : Outcome SignedDeviceClientInforWire :=
  Wire.decode readSignedDeviceClientInforWire bytes

def encodeSignedDeviceClientInforMessage (value : SignedDeviceClientInforWire) : Bytes :=
  encodeTypedMessage msgDeviceInfor (encodeSignedDeviceClientInforWire value)

def decodeSignedDeviceClientInforMessage (bytes : Bytes) : Outcome SignedDeviceClientInforWire :=
  if startsWith bytes msgDeviceInfor then decodeSignedDeviceClientInforWire (bytes.drop msgDeviceInfor.length)
  else bail "not a DeviceClientInfor message"

end Encodings

section Signing
variable (S : Suite)

def signDeviceClientInfor (value : DeviceClientInfor S) (key : KeyInfor S) : S.Signature :=
  S.sign key.signingKey (encodeDeviceClientInfor S value)

def signDeviceClientInforToWire (value : DeviceClientInfor S) (key : KeyInfor S) : SignedDeviceClientInforWire where
  device := deviceClientInforToWire S value
  signature := encodeSignature S (signDeviceClientInfor S value key)

def verifySignedDeviceClientInforWire (signed : SignedDeviceClientInforWire) : Outcome (DeviceClientInfor S) := do
  let verifyingKey ←
    orBail "decode signed DeviceClientInfor verifying_key failed" (S.pointOf signed.device.verifyingKey)
  let signature ← decodeSignature S signed.signature
  let message := encodeDeviceClientInforWire signed.device
  if S.verify verifyingKey message signature then deviceClientInforFromWire S signed.device
  else bail "attester DeviceClientInfor signature verification failed"

variable {S}

def verifyDeviceClientInforFreshness (now : Option Duration) (value : DeviceClientInfor S) : Outcome Unit := do
  let expiresAt ← orBail "DeviceClientInfor timestamp + period overflow" (value.timestamp.checkedAdd value.period)
  let now ← orBail "system time is before UNIX_EPOCH" now
  if now < expiresAt then pure ()
  else
    let timestamp := value.timestamp.secs
    let period := value.period.secs
    let clock := now.secs
    bail s!"DeviceClientInfor expired: timestamp={timestamp} period={period} now={clock}"

end Signing

section RoundTrips
variable {S : Suite}

theorem decodeDeviceClientInforWire_encode {wire : DeviceClientInforWire}
    (fits : (encodeDeviceClientInforWire wire).length ≤ isizeMax) :
    decodeDeviceClientInforWire (encodeDeviceClientInforWire wire) = .ok wire := by
  have bound := fits
  simp only [encodeDeviceClientInforWire, List.length_append] at bound
  refine Reads.decode ?_
  simp only [encodeDeviceClientInforWire, List.append_assoc]
  refine (readLenBytes_reads (by omega)).bind ?_
  refine (readString_reads (by omega)).bind ?_
  refine (readLenBytes_reads (by omega)).bind ?_
  refine (readDuration_reads wire.timestamp).bind ?_
  exact (readDuration_reads wire.period).bind_end (Reads.pure wire)

theorem decodeSignedDeviceClientInforWire_encode {signed : SignedDeviceClientInforWire}
    (fits : (encodeSignedDeviceClientInforWire signed).length ≤ isizeMax) :
    decodeSignedDeviceClientInforWire (encodeSignedDeviceClientInforWire signed) = .ok signed := by
  have bound := fits
  simp only [encodeSignedDeviceClientInforWire, List.length_append] at bound
  have device : (encodeDeviceClientInforWire signed.device).length ≤ isizeMax := by
    rw [appendLenBytes_length] at bound
    omega
  refine Reads.decode ?_
  refine (readLenBytes_reads (by omega)).bind ?_
  -- the device part is decoded from its own bytes, so nothing more is read for it
  refine Reads.lift_bind (decodeDeviceClientInforWire_encode device) ?_
  exact (readLenBytes_reads (by omega)).bind_end (Reads.pure signed)

theorem decodeSignedDeviceClientInforMessage_encode {signed : SignedDeviceClientInforWire}
    (fits : (encodeSignedDeviceClientInforMessage signed).length ≤ isizeMax) :
    decodeSignedDeviceClientInforMessage (encodeSignedDeviceClientInforMessage signed) = .ok signed := by
  simp only [encodeSignedDeviceClientInforMessage, encodeTypedMessage, List.length_append] at fits
  rw [decodeSignedDeviceClientInforMessage, encodeSignedDeviceClientInforMessage, if_pos (startsWith_typed _ _),
    encodeTypedMessage, List.drop_left]
  exact decodeSignedDeviceClientInforWire_encode (by omega)

variable (trips : S.RoundTrips)
include trips

theorem deviceClientInforFromWire_toWire (value : DeviceClientInfor S) :
    deviceClientInforFromWire S (deviceClientInforToWire S value) = .ok value := by
  simp only [deviceClientInforFromWire, deviceClientInforToWire, decodeScalar, encodeScalar, trips.point,
    trips.scalar]
  rfl

/-- A submission that its own key has signed is taken as it was made. -/
theorem verifySignedDeviceClientInforWire_sign (ecdsa : S.EcdsaComplete) {value : DeviceClientInfor S}
    {key : KeyInfor S} (own : value.verifyingKey = key.verifyingKey) :
    verifySignedDeviceClientInforWire S (signDeviceClientInforToWire S value key) = .ok value := by
  have point : S.pointOf (signDeviceClientInforToWire S value key).device.verifyingKey =
      some (S.verifyingKey key.signingKey) := by
    rw [← key.paired, ← own]
    exact trips.point _
  have signature : decodeSignature S (signDeviceClientInforToWire S value key).signature =
      .ok (signDeviceClientInfor S value key) := by
    simp only [signDeviceClientInforToWire, decodeSignature, encodeSignature, trips.signature]
    rfl
  have verified : S.verify (S.verifyingKey key.signingKey)
      (encodeDeviceClientInforWire (signDeviceClientInforToWire S value key).device)
      (signDeviceClientInfor S value key) = true := ecdsa.accepts _ _
  rw [verifySignedDeviceClientInforWire, point]
  simp only [Wire.orBail_some, Wire.ok_bind, signature, if_pos verified]
  exact deviceClientInforFromWire_toWire trips value

end RoundTrips

end UnifiedAttestation.Toolkit
