import UnifiedAttestation.Toolkit.Messages
import UnifiedAttestation.Toolkit.Reference
import Mathlib.Data.Nat.ModEq

/-! What the authorized information says about the measurement.

The text of the measurement is read as one big integer and reduced to a scalar
before it is hashed, so the hash sees neither leading zero bytes nor multiples of
the order.
-/

set_option autoImplicit false

namespace UnifiedAttestation.Toolkit

open Wire (Bytes toBeBytes fromBytesBe utf8)

section Commitment
variable (S : Suite)

/-- The order of the scalar field of BLS12-381. -/
def scalarOrder : Nat := 0x73eda753299d7d483339d80809a1d80553bda402fffe5bfeffffffff00000001

/-- `BlsScalar::from` reduces modulo the order of the field. -/
structure Suite.Reduces : Prop where
  ofNat : ∀ a b, S.ofNat a = S.ofNat b ↔ a ≡ b [MOD scalarOrder]

variable {S} {first second : DeviceClientInfor S} {devRes devRes' : ResponseDeviceInfor S}

/-- For one key and one window the authorized information is the measurement as a scalar. -/
theorem generateDeviceAuthoriedInfor_eq_iff (injective : Function.Injective2 S.hash)
    (key : first.verifyingKey = second.verifyingKey) (timestamp : devRes.timestamp = devRes'.timestamp)
    (period : devRes.period = devRes'.period) :
    generateDeviceAuthoriedInfor S first devRes = generateDeviceAuthoriedInfor S second devRes' ↔
      scalarOfText S first.measuredValue = scalarOfText S second.measuredValue := by
  simp only [generateDeviceAuthoriedInfor, key, timestamp, period]
  constructor
  · intro same
    obtain ⟨windows, -⟩ := injective same
    obtain ⟨keys, -⟩ := injective windows
    exact (injective keys).2
  · intro same
    rw [same]

/-- The authorized information determines the measurement exactly when the two texts are one or
their big integers differ by no multiple of the order. -/
theorem generateDeviceAuthoriedInfor_binds_iff (injective : Function.Injective2 S.hash) (reduces : S.Reduces)
    (key : first.verifyingKey = second.verifyingKey) (timestamp : devRes.timestamp = devRes'.timestamp)
    (period : devRes.period = devRes'.period) :
    (generateDeviceAuthoriedInfor S first devRes = generateDeviceAuthoriedInfor S second devRes' →
        first.measuredValue = second.measuredValue) ↔
      first.measuredValue = second.measuredValue ∨
        ¬ fromBytesBe (utf8 first.measuredValue) ≡ fromBytesBe (utf8 second.measuredValue) [MOD scalarOrder] := by
  rw [generateDeviceAuthoriedInfor_eq_iff injective key timestamp period, scalarOfText, scalarOfText, reduces.ofNat]
  exact imp_iff_or_not

/-- Texts of one length below 32 bytes are bound. -/
theorem scalarOfText_short (reduces : S.Reduces) {text text' : String} (lengths : (utf8 text).length = (utf8 text').length)
    (short : (utf8 text).length ≤ 31) (same : scalarOfText S text = scalarOfText S text') : text = text' := by
  have bound : 256 ^ (utf8 text).length < scalarOrder :=
    Nat.lt_of_le_of_lt (Nat.pow_le_pow_right (by decide) short) (by decide)
  have low := Nat.lt_trans (Wire.fromBytesBe_lt (utf8 text)) bound
  have low' := Wire.fromBytesBe_lt (utf8 text')
  rw [← lengths] at low'
  have integers := Nat.ModEq.eq_of_lt_of_lt ((reduces.ofNat _ _).mp same) low (Nat.lt_trans low' bound)
  exact Wire.utf8_injective (Wire.fromBytesBe_injective lengths integers)

end Commitment

section Sample

/-- The reference suite with scalars reduced modulo the order. -/
abbrev reducing : Suite := { reference with ofNat := fun n => (n % scalarOrder : Nat) }

theorem reducing_reduces : reducing.Reduces where
  ofNat _ _ := Iff.rfl

def measured (text : String) : DeviceClientInfor reducing where
  verifyingKey := [2]
  measuredValue := text
  merkleLeaf := (5 : Nat)
  timestamp := Duration.fromSecs 10 (by decide)
  period := responsePeriod

def measuredResponse : ResponseDeviceInfor reducing := ResponseDeviceInfor.new reducing (Duration.fromSecs 20 (by decide)) [2]

theorem generateDeviceAuthoriedInfor_binds_iff_letters :
    (generateDeviceAuthoriedInfor reducing (measured "a") measuredResponse =
        generateDeviceAuthoriedInfor reducing (measured "b") measuredResponse →
        (measured "a").measuredValue = (measured "b").measuredValue) ↔
      (measured "a").measuredValue = (measured "b").measuredValue ∨
        ¬ fromBytesBe (utf8 (measured "a").measuredValue) ≡ fromBytesBe (utf8 (measured "b").measuredValue)
          [MOD scalarOrder] :=
  generateDeviceAuthoriedInfor_binds_iff reference_hash_injective reducing_reduces rfl rfl rfl

/-- A leading zero character leaves the authorized information as it is. -/
theorem generateDeviceAuthoriedInfor_leading_zero :
    Function.Injective2 reducing.hash ∧ (measured "a").verifyingKey = (measured "\x00a").verifyingKey ∧
      generateDeviceAuthoriedInfor reducing (measured "a") measuredResponse =
        generateDeviceAuthoriedInfor reducing (measured "\x00a") measuredResponse ∧
      (measured "a").measuredValue ≠ (measured "\x00a").measuredValue := by
  refine ⟨reference_hash_injective, rfl, ?_, by decide⟩
  apply (generateDeviceAuthoriedInfor_eq_iff (S := reducing) reference_hash_injective rfl rfl rfl).mpr
  have integers : fromBytesBe (utf8 "a") = fromBytesBe (utf8 "\x00a") := by decide
  exact (reducing_reduces.ofNat _ _).mpr (congrArg (· % scalarOrder) integers)

end Sample

end UnifiedAttestation.Toolkit
