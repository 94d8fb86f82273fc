import UnifiedAttestation.Toolkit.Suite
import Mathlib.Data.Nat.Pairing

/-! A reference suite over the naturals.

Its hash is injective, keys are 32 bytes that are their own public key, a signature
repeats the message and a proof repeats the public inputs it was made for. All
assumptions hold of it together, so results that rest on them are not void.
-/

set_option autoImplicit false

namespace UnifiedAttestation.Toolkit

open Wire (Bytes toBeBytes fromBytesBe utf8)

/-- As many bytes as the number has. -/
def natBytes (n : Nat) : Bytes := toBeBytes (n.log2 / 8 + 1) n

theorem fromBytesBe_natBytes (n : Nat) : fromBytesBe (natBytes n) = n := by
  apply Wire.fromBytesBe_toBeBytes
  calc
    n < 2 ^ (n.log2 + 1) := Nat.lt_log2_self
    _ ≤ 2 ^ (8 * (n.log2 / 8 + 1)) := Nat.pow_le_pow_right (by decide) (by omega)
    _ = 256 ^ (n.log2 / 8 + 1) := by rw [Nat.pow_mul]

abbrev ReferenceKey := { bytes : Bytes // bytes.length = 32 }

def byteKey (byte : UInt8) : ReferenceKey := ⟨List.replicate 32 byte, rfl⟩

theorem zeroNonce_length : (List.replicate 12 (0 : UInt8)).length = 12 := List.length_replicate

/-- A duration of a few seconds. -/
def seconds (count : UInt8) : Duration := Duration.fromSecs count.toNat (Nat.lt_trans count.toNat_lt (by decide))

/-- The public inputs behind each other, each with its length. -/
def inputBytes (inputs : List Nat) : Bytes :=
  inputs.flatMap fun input => toBeBytes 8 (natBytes input).length ++ natBytes input

abbrev reference : Suite where
  Scalar := Nat
  scalarEq := inferInstance
  hash := Nat.pair
  ofNat := id
  showScalar := fun value => utf8 (toString value)
  scalarBytes := natBytes
  scalarOf := fun bytes => some (fromBytesBe bytes)
  SigningKey := ReferenceKey
  VerifyingKey := Bytes
  Signature := Bytes
  verifyingKey := fun key => key.val
  sign := fun key message => key.val ++ message
  verify := fun key message signature => signature == key ++ message
  keyBytes := fun key => key.val
  keyOf := fun bytes => if length : bytes.length = 32 then some ⟨bytes, length⟩ else none
  pointBytes := id
  pointOf := some
  derBytes := id
  derOf := some
  diffieHellman := fun key point => List.zipWith (· ^^^ ·) key.val point
  hkdf := fun secret purpose => secret ++ purpose
  aesEncrypt := fun key _ message => some (key ++ message)
  aesDecrypt := fun key _ ciphertext => if key.isPrefixOf ciphertext then some (ciphertext.drop key.length) else none
  ProvingKey := Nat
  GrothKey := Nat
  Proof := Bytes
  setup := fun _ shape => (shape.inputs, shape.inputs)
  prove := fun _ _ system => if system.Satisfied Nat.pair then some (inputBytes system.inputs) else none
  verifyProof := fun vk inputs proof => if inputs.length = vk then some (proof == inputBytes inputs) else none
  proofBytes := id
  proofOf := some
  grothKeyBytes := natBytes
  grothKeyOf := fun bytes => some (fromBytesBe bytes)

theorem reference_hash_injective : Function.Injective2 reference.hash :=
  fun _ _ _ _ same => Nat.pair_eq_pair.mp same

theorem reference_ecdsaComplete : reference.EcdsaComplete where
  accepts key message := beq_self_eq_true (key.val ++ message)

theorem reference_cipherComplete : reference.CipherComplete where
  agree a b := List.zipWith_comm_of_comm UInt8.xor_comm
  opens key nonce message := by
    refine ⟨key ++ message, rfl, ?_, ?_⟩
    · simp
    · rw [List.length_append]
      omega

theorem reference_grothComplete : reference.GrothComplete where
  proves seed seed' system satisfied := by
    refine ⟨inputBytes system.inputs, ?_, ?_⟩
    · exact if_pos satisfied
    · change (if system.inputs.length = system.inputs.length then
        some (inputBytes system.inputs == inputBytes system.inputs) else none) = some true
      rw [if_pos rfl, beq_self_eq_true]

theorem reference_roundTrips : reference.RoundTrips where
  scalar value := congrArg some (fromBytesBe_natBytes value)
  key value := dif_pos value.property
  keyLength value := value.property
  point _ := rfl
  signature _ := rfl
  proof _ := rfl
  grothKey value := congrArg some (fromBytesBe_natBytes value)

section Ideal

/-- A suite over one-byte scalars with an ideal proof system: a proof carries nothing
and verifies exactly when the inputs belong to the relation of the key. -/
abbrev ideal : Suite where
  Scalar := Fin 256
  scalarEq := inferInstance
  hash := fun a b => (a + 3 * b) / 2
  ofNat := fun n => Fin.ofNat 256 n
  showScalar := fun value => utf8 (toString value.val)
  scalarBytes := fun value => [UInt8.ofFin value]
  scalarOf := fun bytes => bytes.head?.map UInt8.toFin
  SigningKey := UInt8
  VerifyingKey := UInt8
  Signature := UInt8
  verifyingKey := id
  sign := fun key _ => key
  verify := fun key _ signature => signature == key
  keyBytes := fun key => key :: List.replicate 31 0
  keyOf := fun bytes => if bytes.length = 32 then bytes.head? else none
  pointBytes := fun point => [point]
  pointOf := List.head?
  derBytes := fun signature => [signature]
  derOf := List.head?
  diffieHellman := fun key point => [key ^^^ point]
  hkdf := fun secret purpose => secret ++ purpose
  aesEncrypt := fun key _ message => some (key ++ message)
  aesDecrypt := fun key _ ciphertext => if key.isPrefixOf ciphertext then some (ciphertext.drop key.length) else none
  ProvingKey := Gadgets.Shape
  GrothKey := Gadgets.Shape
  Proof := Unit
  setup := fun _ shape => (shape, shape)
  prove := fun _ _ system => if system.Satisfied (fun a b : Fin 256 => (a + 3 * b) / 2) then some () else none
  verifyProof := fun vk inputs _ =>
    if inputs.length = vk.inputs then some (decide (vk.Satisfiable (fun a b : Fin 256 => (a + 3 * b) / 2) inputs))
    else none
  proofBytes := fun _ => []
  proofOf := fun _ => some ()
  grothKeyBytes := fun vk => natBytes (Encodable.encode vk)
  grothKeyOf := fun bytes => Encodable.decode (fromBytesBe bytes)

theorem ideal_ecdsaComplete : ideal.EcdsaComplete where
  accepts key _ := beq_self_eq_true key

theorem ideal_roundTrips : ideal.RoundTrips where
  scalar _ := rfl
  key _ := rfl
  keyLength _ := rfl
  point _ := rfl
  signature _ := rfl
  proof _ := rfl
  grothKey value := by
    change Encodable.decode (fromBytesBe (natBytes (Encodable.encode value))) = some value
    rw [fromBytesBe_natBytes, Encodable.encodek]

/-- The ideal suite with public keys as long as compressed ones. -/
abbrev compressed : Suite := { ideal with pointBytes := fun point => point :: List.replicate 32 0 }

/-- The number a decimal text denotes. -/
def ofDecimal (text : Bytes) : Nat := text.foldl (fun number digit => 10 * number + (digit.toNat - 48)) 0

theorem compressed_injective : compressed.Injective where
  proof _ _ _ := rfl
  grothKey left right same := by
    have numbers := congrArg fromBytesBe same
    change fromBytesBe (natBytes _) = fromBytesBe (natBytes _) at numbers
    rw [fromBytesBe_natBytes, fromBytesBe_natBytes] at numbers
    exact Encodable.encode_injective numbers
  signature left right same := (List.cons.inj same).1
  scalar left right same := congrArg UInt8.toFin (List.cons.inj same).1
  shown left right same := by
    have reads : ∀ value : Fin 256, ofDecimal (utf8 (toString value.val)) = value.val := by decide +kernel
    have numbers := congrArg ofDecimal same
    exact Fin.ext ((reads left).symm.trans (numbers.trans (reads right)))
  point left right same := (List.cons.inj same).1
  pointLength _ := rfl

end Ideal

end UnifiedAttestation.Toolkit
