import UnifiedAttestation.Toolkit.Suite

/-! The wire codec helpers: length-prefixed fields, durations, vectors and options.

What an `append` function pushes onto its output is the result here. A length that
is read back is a claim of the peer, so the reads reserve memory for it first and
panic when it exceeds what a vector can hold. What is encoded is held by vectors.
-/

set_option autoImplicit false

namespace UnifiedAttestation.Toolkit

open Wire (Bytes Outcome Reader Reads toBeBytes fromBytesBe utf8 fromUtf8 bail orBail reserve)

/-- `isize::MAX`, the most bytes a vector can hold or ask for. -/
def isizeMax : Nat := 2 ^ 63 - 1

section Fields

def appendLenBytes (bytes : Bytes) : Bytes := toBeBytes 8 bytes.length ++ bytes

def readExact (count : Nat) : Reader Bytes := Wire.take count "read fixed bytes failed"

def readU64 : Reader Nat := fromBytesBe <$> readExact 8

def readU32 : Reader Nat := fromBytesBe <$> readExact 4

/-- The single byte in front of an option or in a vector of booleans. -/
def readU8 : Reader Nat := fromBytesBe <$> readExact 1

def readLenBytes : Reader Bytes := do
  let len ← readU64
  reserve isizeMax len
  Wire.take len "read length-prefixed bytes failed"

def appendString (value : String) : Bytes := appendLenBytes (utf8 value)

def readString : Reader String := do
  let bytes ← readLenBytes
  orBail "parse UTF-8 string failed" (fromUtf8 bytes)

def appendDuration (value : Duration) : Bytes := toBeBytes 8 value.secs ++ toBeBytes 4 value.nanos

def readDuration : Reader Duration := do
  let secs ← readU64
  let nanos ← readU32
  Duration.new secs nanos

def appendBoolVec (values : List Bool) : Bytes :=
  toBeBytes 8 values.length ++ values.flatMap fun value => toBeBytes 1 value.toNat

def readBool (invalid : Nat → String) : Reader Bool := do
  match ← readU8 with
  | 0 => pure false
  | 1 => pure true
  | other => bail (invalid other)

def readBoolVec (invalid : Nat → String) : Reader (List Bool) := do
  let len ← readU64
  reserve isizeMax len
  Wire.replicate (readBool invalid) len

/-- A tag byte, and the value behind it when there is one. -/
def appendOption {β : Type} (append : β → Bytes) : Option β → Bytes
  | some value => toBeBytes 1 1 ++ append value
  | none => toBeBytes 1 0

def readOption {β : Type} (invalid : Nat → String) (read : Reader β) : Reader (Option β) := do
  match ← readU8 with
  | 0 => pure none
  | 1 => some <$> read
  | other => bail (invalid other)

@[simp] theorem appendLenBytes_length (bytes : Bytes) :
    (appendLenBytes bytes).length = 8 + bytes.length := by simp [appendLenBytes]

@[simp] theorem appendDuration_length (value : Duration) : (appendDuration value).length = 12 := by
  simp [appendDuration]

theorem readExact_reads {count n : Nat} (fits : n < 256 ^ count) :
    Reads (fromBytesBe <$> readExact count) (toBeBytes count n) n := by
  have number := (Wire.take_reads "read fixed bytes failed" (Wire.toBeBytes_length count n)).map fromBytesBe
  rwa [Wire.fromBytesBe_toBeBytes fits] at number

theorem readU64_reads {n : Nat} (fits : n < 2 ^ 64) : Reads readU64 (toBeBytes 8 n) n :=
  readExact_reads (by omega)

theorem readU32_reads {n : Nat} (fits : n < 2 ^ 32) : Reads readU32 (toBeBytes 4 n) n :=
  readExact_reads (by omega)

theorem readU8_reads {n : Nat} (fits : n < 256) : Reads readU8 (toBeBytes 1 n) n :=
  readExact_reads (by omega)

theorem readLenBytes_reads {bytes : Bytes} (fits : (appendLenBytes bytes).length ≤ isizeMax) :
    Reads readLenBytes (appendLenBytes bytes) bytes := by
  rw [appendLenBytes_length, isizeMax] at fits
  refine (readU64_reads (by omega)).bind ?_
  have reserved : bytes.length ≤ isizeMax := by unfold isizeMax; omega
  exact Reads.lift_bind (Wire.reserve_ok reserved) (Wire.take_reads "read length-prefixed bytes failed" rfl)

theorem readString_reads {value : String} (fits : (appendString value).length ≤ isizeMax) :
    Reads readString (appendString value) value := by
  refine (readLenBytes_reads fits).bind_end ?_
  rw [Wire.fromUtf8_utf8]
  exact Reads.pure value

theorem readDuration_reads (value : Duration) : Reads readDuration (appendDuration value) value := by
  refine (readU64_reads value.secs_lt).bind ((readU32_reads (Nat.lt_trans value.nanos_lt (by decide))).bind_end ?_)
  exact Reads.lift value.new_self

theorem readBool_reads (invalid : Nat → String) (value : Bool) :
    Reads (readBool invalid) (toBeBytes 1 value.toNat) value := by
  refine (readU8_reads (by cases value <;> decide)).bind_end ?_
  cases value <;> exact Reads.pure _

theorem readBoolVec_reads (invalid : Nat → String) {values : List Bool}
    (fits : (appendBoolVec values).length ≤ isizeMax) :
    Reads (readBoolVec invalid) (appendBoolVec values) values := by
  have each := Wire.mul_length_le_flatMap (fun value => toBeBytes 1 (Bool.toNat value))
    (fun value => Nat.le_of_eq (Wire.toBeBytes_length 1 _).symm) values
  simp only [appendBoolVec, List.length_append, Wire.toBeBytes_length, isizeMax] at fits
  refine (readU64_reads (by omega)).bind ?_
  have reserved : values.length ≤ isizeMax := by unfold isizeMax; omega
  exact Reads.lift_bind (Wire.reserve_ok reserved) (Wire.replicate_reads _ fun value _ => readBool_reads invalid value)

theorem readOption_reads {β : Type} (invalid : Nat → String) {read : Reader β} {append : β → Bytes}
    {value : Option β} (each : ∀ held ∈ value, Reads read (append held) held) :
    Reads (readOption invalid read) (appendOption append value) value := by
  cases value with
  | none => exact (readU8_reads (by decide)).bind_end (Reads.pure none)
  | some held => exact (readU8_reads (by decide)).bind ((each held rfl).map some)

end Fields

section Primitives
variable (S : Suite)

def encodeScalar (value : S.Scalar) : Bytes := S.scalarBytes value

def decodeScalar (bytes : Bytes) : Outcome S.Scalar := orBail "deserialize BlsScalar failed" (S.scalarOf bytes)

def appendScalar (value : S.Scalar) : Bytes := appendLenBytes (encodeScalar S value)

def readScalar : Reader S.Scalar := do
  let bytes ← readLenBytes
  decodeScalar S bytes

def appendScalarVec (values : List S.Scalar) : Bytes :=
  toBeBytes 8 values.length ++ values.flatMap (appendScalar S)

/-- A scalar takes 32 bytes of memory. -/
def readScalarVec : Reader (List S.Scalar) := do
  let len ← readU64
  reserve isizeMax (32 * len)
  Wire.replicate (readScalar S) len

def encodeSignature (value : S.Signature) : Bytes := S.derBytes value

def decodeSignature (bytes : Bytes) : Outcome S.Signature :=
  orBail "deserialize secp256k1 signature failed" (S.derOf bytes)

def appendSignature (value : S.Signature) : Bytes := appendLenBytes (encodeSignature S value)

def readSignature : Reader S.Signature := do
  let bytes ← readLenBytes
  decodeSignature S bytes

def appendVerifyingKey (value : S.VerifyingKey) : Bytes := appendLenBytes (S.pointBytes value)

def readVerifyingKey : Reader S.VerifyingKey := do
  let bytes ← readLenBytes
  orBail "deserialize secp256k1 public key failed" (S.pointOf bytes)

def encodeProof (value : S.Proof) : Bytes := S.proofBytes value

def decodeProof (bytes : Bytes) : Outcome S.Proof := orBail "deserialize Groth16 proof failed" (S.proofOf bytes)

def appendProof (value : S.Proof) : Bytes := appendLenBytes (encodeProof S value)

def readProof : Reader S.Proof := do
  let bytes ← readLenBytes
  decodeProof S bytes

def encodeArkVk (value : S.GrothKey) : Bytes := S.grothKeyBytes value

def decodeArkVk (bytes : Bytes) : Outcome S.GrothKey :=
  orBail "deserialize Groth16 verifying key failed" (S.grothKeyOf bytes)

def appendArkVk (value : S.GrothKey) : Bytes := appendLenBytes (encodeArkVk S value)

def readArkVk : Reader S.GrothKey := do
  let bytes ← readLenBytes
  decodeArkVk S bytes

variable {S}

/-- Length-prefixed bytes behind which a decoder of the suite sits. -/
theorem readLenBytes_lift {β : Type} {bytes : Bytes} {decode : Bytes → Outcome β} {value : β}
    (fits : (appendLenBytes bytes).length ≤ isizeMax) (decodes : decode bytes = .ok value) :
    Reads (do let read ← readLenBytes; decode read : Reader β) (appendLenBytes bytes) value :=
  (readLenBytes_reads fits).bind_end (Reads.lift decodes)

variable (trips : S.RoundTrips)
include trips

theorem readScalar_reads {value : S.Scalar} (fits : (appendScalar S value).length ≤ isizeMax) :
    Reads (readScalar S) (appendScalar S value) value :=
  readLenBytes_lift fits (by rw [decodeScalar, encodeScalar, trips.scalar]; rfl)

theorem readSignature_reads {value : S.Signature} (fits : (appendSignature S value).length ≤ isizeMax) :
    Reads (readSignature S) (appendSignature S value) value :=
  readLenBytes_lift fits (by rw [decodeSignature, encodeSignature, trips.signature]; rfl)

theorem readVerifyingKey_reads {value : S.VerifyingKey}
    (fits : (appendVerifyingKey S value).length ≤ isizeMax) :
    Reads (readVerifyingKey S) (appendVerifyingKey S value) value :=
  readLenBytes_lift fits (by rw [trips.point]; rfl)

theorem readProof_reads {value : S.Proof} (fits : (appendProof S value).length ≤ isizeMax) :
    Reads (readProof S) (appendProof S value) value :=
  readLenBytes_lift fits (by rw [decodeProof, encodeProof, trips.proof]; rfl)

theorem readArkVk_reads {value : S.GrothKey} (fits : (appendArkVk S value).length ≤ isizeMax) :
    Reads (readArkVk S) (appendArkVk S value) value :=
  readLenBytes_lift fits (by rw [decodeArkVk, encodeArkVk, trips.grothKey]; rfl)

theorem readScalarVec_reads {values : List S.Scalar} (fits : (appendScalarVec S values).length ≤ isizeMax)
    (held : 32 * values.length ≤ isizeMax) : Reads (readScalarVec S) (appendScalarVec S values) values := by
  have total := fits
  simp only [appendScalarVec, List.length_append, Wire.toBeBytes_length, isizeMax] at total
  have count := held
  rw [isizeMax] at count
  refine (readU64_reads (by omega)).bind ?_
  have each : ∀ value ∈ values, Reads (readScalar S) (appendScalar S value) value := by
    intro value member
    have inside := Wire.length_le_flatMap (appendScalar S) member
    exact readScalar_reads trips (by unfold isizeMax; omega)
  exact Reads.lift_bind (Wire.reserve_ok held) (Wire.replicate_reads _ each)

end Primitives

end UnifiedAttestation.Toolkit
