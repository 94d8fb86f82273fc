import UnifiedAttestation.Wire.Reader
import UnifiedAttestation.Gadgets.System

/-! The primitives the protocol is built on, and what is relied on about them.

A suite bundles the field with its two-to-one hash, ECDSA, the response encryption
and the proof system with their encodings. Serialising into a vector does not fail,
so the encoders are plain functions; every decoder may refuse. An ephemeral secret
is a signing key and a public key a verifying key, as both wrap the same values.
-/

set_option autoImplicit false

namespace UnifiedAttestation.Toolkit

open Wire (Bytes Outcome)
open Gadgets (Shape System)

structure Duration where
  secs : Nat
  nanos : Nat
  secs_lt : secs < 2 ^ 64
  nanos_lt : nanos < 10 ^ 9
  deriving DecidableEq

/-- Whole seconds of the nanoseconds are carried; an overflow of the seconds panics. -/
def Duration.new (secs nanos : Nat) : Outcome Duration :=
  if fits : secs + nanos / 10 ^ 9 < 2 ^ 64 then
    .ok ⟨secs + nanos / 10 ^ 9, nanos % 10 ^ 9, fits, Nat.mod_lt _ (by decide)⟩
  else .error .panic

def Duration.fromSecs (secs : Nat) (fits : secs < 2 ^ 64) : Duration := ⟨secs, 0, fits, by decide⟩

def Duration.checkedAdd (d e : Duration) : Option Duration :=
  if fits : d.secs + e.secs + (d.nanos + e.nanos) / 10 ^ 9 < 2 ^ 64 then
    some ⟨d.secs + e.secs + (d.nanos + e.nanos) / 10 ^ 9, (d.nanos + e.nanos) % 10 ^ 9, fits,
      Nat.mod_lt _ (by decide)⟩
  else none

instance : LT Duration := ⟨fun d e => d.secs < e.secs ∨ (d.secs = e.secs ∧ d.nanos < e.nanos)⟩

instance (d e : Duration) : Decidable (d < e) :=
  inferInstanceAs (Decidable (d.secs < e.secs ∨ (d.secs = e.secs ∧ d.nanos < e.nanos)))

theorem Duration.new_self (d : Duration) : Duration.new d.secs d.nanos = .ok d := by
  have nanos := d.nanos_lt
  have secs := d.secs_lt
  have carry : d.nanos / 10 ^ 9 = 0 := Nat.div_eq_of_lt nanos
  simp only [Duration.new, carry, Nat.add_zero, dif_pos secs, Nat.mod_eq_of_lt nanos]

structure Suite where
  Scalar : Type
  scalarEq : DecidableEq Scalar
  /-- The Poseidon two-to-one hash. -/
  hash : Scalar → Scalar → Scalar
  /-- `BlsScalar::from`, of a big integer or a `u64`. -/
  ofNat : Nat → Scalar
  /-- The bytes of the decimal text. -/
  showScalar : Scalar → Bytes
  scalarBytes : Scalar → Bytes
  scalarOf : Bytes → Option Scalar
  SigningKey : Type
  VerifyingKey : Type
  Signature : Type
  verifyingKey : SigningKey → VerifyingKey
  sign : SigningKey → Bytes → Signature
  verify : VerifyingKey → Bytes → Signature → Bool
  keyBytes : SigningKey → Bytes
  keyOf : Bytes → Option SigningKey
  pointBytes : VerifyingKey → Bytes
  pointOf : Bytes → Option VerifyingKey
  derBytes : Signature → Bytes
  derOf : Bytes → Option Signature
  diffieHellman : SigningKey → VerifyingKey → Bytes
  /-- HKDF over SHA-256 of a shared secret, expanded to 32 bytes for the given purpose. -/
  hkdf : Bytes → Bytes → Bytes
  /-- AES-256-GCM: key, nonce and message. -/
  aesEncrypt : Bytes → Bytes → Bytes → Option Bytes
  aesDecrypt : Bytes → Bytes → Bytes → Option Bytes
  ProvingKey : Type
  GrothKey : Type
  Proof : Type
  /-- The first argument is the randomness drawn. -/
  setup : Nat → Shape → ProvingKey × GrothKey
  prove : Nat → ProvingKey → System Scalar → Option Proof
  verifyProof : GrothKey → List Scalar → Proof → Option Bool
  proofBytes : Proof → Bytes
  proofOf : Bytes → Option Proof
  grothKeyBytes : GrothKey → Bytes
  grothKeyOf : Bytes → Option GrothKey

instance (S : Suite) : DecidableEq S.Scalar := S.scalarEq

section Assumptions
variable (S : Suite)

structure Suite.EcdsaComplete : Prop where
  accepts : ∀ key message, S.verify (S.verifyingKey key) message (S.sign key message) = true

structure Suite.CipherComplete : Prop where
  agree : ∀ a b, S.diffieHellman a (S.verifyingKey b) = S.diffieHellman b (S.verifyingKey a)
  opens : ∀ key nonce message, ∃ ciphertext, S.aesEncrypt key nonce message = some ciphertext ∧
    S.aesDecrypt key nonce ciphertext = some message ∧ message.length ≤ ciphertext.length

structure Suite.GrothComplete : Prop where
  proves : ∀ seed seed' (system : System S.Scalar), system.Satisfied S.hash →
    ∃ proof, S.prove seed' (S.setup seed system.shape).1 system = some proof ∧
      S.verifyProof (S.setup seed system.shape).2 system.inputs proof = some true

structure Suite.RoundTrips : Prop where
  scalar : ∀ value, S.scalarOf (S.scalarBytes value) = some value
  key : ∀ value, S.keyOf (S.keyBytes value) = some value
  keyLength : ∀ value, (S.keyBytes value).length = 32
  point : ∀ value, S.pointOf (S.pointBytes value) = some value
  signature : ∀ value, S.derOf (S.derBytes value) = some value
  proof : ∀ value, S.proofOf (S.proofBytes value) = some value
  grothKey : ∀ value, S.grothKeyOf (S.grothKeyBytes value) = some value

structure Suite.Injective : Prop where
  proof : Function.Injective S.proofBytes
  grothKey : Function.Injective S.grothKeyBytes
  signature : Function.Injective S.derBytes
  scalar : Function.Injective S.scalarBytes
  shown : Function.Injective S.showScalar
  point : Function.Injective S.pointBytes
  pointLength : ∀ value, (S.pointBytes value).length = 33

end Assumptions

end UnifiedAttestation.Toolkit
