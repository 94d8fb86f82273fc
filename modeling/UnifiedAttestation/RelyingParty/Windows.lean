import UnifiedAttestation.RelyingParty.Listener

/-! The two windows that evidence carries: the attester's, from its own clock, and the
verifier's, which the verifier signs and the proof takes as public inputs.

Only the attester's window is compared with the clock.
-/

set_option autoImplicit false

namespace UnifiedAttestation.RelyingParty

open Wire (Bytes Outcome)
open Toolkit

section Durations

/-- A duration in nanoseconds. -/
def total (d : Duration) : Nat := d.secs * 10 ^ 9 + d.nanos

theorem total_lt_iff {d e : Duration} : d < e ↔ total d < total e := by
  have nanos := d.nanos_lt
  have nanos' := e.nanos_lt
  change d.secs < e.secs ∨ (d.secs = e.secs ∧ d.nanos < e.nanos) ↔ _
  unfold total
  omega

theorem total_injective : Function.Injective total := by
  rintro ⟨secs, nanos, secs_lt, nanos_lt⟩ ⟨secs', nanos', secs_lt', nanos_lt'⟩ same
  simp only [total] at same
  obtain rfl : secs = secs' := by omega
  obtain rfl : nanos = nanos' := by omega
  rfl

/-- The checked sum is the exact one, or absent because it does not fit. -/
theorem checkedAdd_eq_some {d e sum : Duration} :
    d.checkedAdd e = some sum ↔ total sum = total d + total e := by
  have carried : ∀ s, d.checkedAdd e = some s → total s = total d + total e := by
    intro s added
    unfold Duration.checkedAdd at added
    split at added
    · obtain rfl := Option.some.inj added
      unfold total
      simp only
      omega
    · cases added
  constructor
  · exact carried sum
  · intro exact_sum
    have fits : d.secs + e.secs + (d.nanos + e.nanos) / 10 ^ 9 < 2 ^ 64 := by
      have secs := sum.secs_lt
      have nanos := sum.nanos_lt
      unfold total at exact_sum
      omega
    have added : ∃ s, d.checkedAdd e = some s := ⟨_, dif_pos fits⟩
    obtain ⟨s, added⟩ := added
    rw [added, total_injective ((carried s added).trans exact_sum.symm)]

/-- The clock shows a time before the end of the window. -/
def Before (now : Option Duration) (start length : Duration) : Prop :=
  ∃ clock, now = some clock ∧ total clock < total start + total length

instance (now : Option Duration) (start length : Duration) : Decidable (Before now start length) :=
  match now with
  | none => isFalse nofun
  | some clock =>
    if before : total clock < total start + total length then isTrue ⟨clock, rfl, before⟩
    else isFalse fun ⟨_, same, inside⟩ => before (Option.some.inj same ▸ inside)

end Durations

section Windows
variable {S : Suite} {now : Option Duration} {ctx : PublicContext S} {payload : Bytes}

/-- Freshness is the attester's window, with a sum that does not overflow. -/
theorem fresh_iff {reply : EvidenceReply S} :
    Fresh now reply ↔ Before now reply.timestampAttester reply.periodAttester ∧
      (reply.timestampAttester.checkedAdd reply.periodAttester).isSome = true := by
  constructor
  · rintro ⟨clock, expiresAt, reading, sum, before⟩
    rw [total_lt_iff, checkedAdd_eq_some.mp sum] at before
    exact ⟨⟨clock, reading, before⟩, by rw [sum]; rfl⟩
  · rintro ⟨⟨clock, reading, before⟩, fits⟩
    obtain ⟨expiresAt, sum⟩ := Option.isSome_iff_exists.mp fits
    refine ⟨clock, expiresAt, reading, sum, ?_⟩
    rwa [total_lt_iff, checkedAdd_eq_some.mp sum]

/-- An acknowledged frame is inside both windows, and the sums made on the way are exact. -/
def WindowsEnforced (now : Option Duration) (ctx : PublicContext S) (payload : Bytes) : Prop :=
  verificationSuccess ∈ (handle now (some ctx) payload).replies →
    ∃ reply sig, decodeEvidenceMessage S payload = .ok (reply, sig) ∧ Before now reply.timestamp reply.period ∧
      Before now reply.timestampAttester reply.periodAttester ∧
      ∃ expiresAt, reply.timestampAttester.checkedAdd reply.periodAttester = some expiresAt ∧
        total expiresAt = total reply.timestampAttester + total reply.periodAttester

/-- Both windows are enforced exactly for the frames that are refused anyway or whose verifier
window has not ended. -/
theorem handle_windows_iff :
    WindowsEnforced now ctx payload ↔
      maxTcpFrameLen < payload.length ∨ ∀ reply sig, decodeEvidenceMessage S payload = .ok (reply, sig) →
        Passes now ctx reply sig → Before now reply.timestamp reply.period := by
  unfold WindowsEnforced
  rw [handle_success_iff]
  constructor
  · intro enforced
    refine or_iff_not_imp_left.mpr fun short reply sig decoded passes => ?_
    obtain ⟨reply', sig', decoded', before, -⟩ := enforced ⟨Nat.le_of_not_lt short, reply, sig, decoded, passes⟩
    obtain ⟨rfl, rfl⟩ := Prod.mk.inj (Except.ok.inj (decoded.symm.trans decoded'))
    exact before
  · rintro refused ⟨short, reply, sig, decoded, passes⟩
    have before := refused.resolve_left (Nat.not_lt.mpr short) reply sig decoded passes
    obtain ⟨fresh, fits⟩ := fresh_iff.mp passes.fresh
    obtain ⟨expiresAt, sum⟩ := Option.isSome_iff_exists.mp fits
    exact ⟨reply, sig, decoded, before, fresh, expiresAt, sum, checkedAdd_eq_some.mp sum⟩

end Windows

section Sample

/-- Endorsed evidence whose verifier window ended at 30 seconds. -/
def lapsed : EvidenceReply reference :=
  { unendorsed with sig := ([9] ++ verifierMessage unendorsed : Bytes) }

def lapsedClock : Option Duration := some (Duration.fromSecs 60 (by decide))

def lapsedContext : PublicContext reference := ⟨[(5 : Nat)], [9]⟩

/-- At 60 seconds it is acknowledged, endorsement and all. -/
theorem lapsed_acknowledged :
    ∃ payload, Endorsed lapsedContext.verifierPk lapsed ∧
      verificationSuccess ∈ (handle lapsedClock (some lapsedContext) payload).replies ∧
      ¬ WindowsEnforced lapsedClock lapsedContext payload := by
  have fits : (encodeEvidenceMessage reference lapsed (reference.sign ⟨List.replicate 32 0, rfl⟩
      lapsed.toSigningBytesAllFields)).length ≤ maxTcpFrameLen := by decide +kernel
  have made : EvidenceReply.new reference (some (Duration.fromSecs 50 (by decide))) lapsed.proof lapsed.vk
      lapsed.sig (reference.verifyingKey ⟨List.replicate 32 0, rfl⟩) lapsed.timestamp lapsed.period
      lapsed.authorizedInfor ⟨List.replicate 32 0, rfl⟩ = .ok lapsed := rfl
  have fresh : Fresh lapsedClock lapsed := ⟨_, _, rfl, rfl, by decide⟩
  have proved : reference.verifyProof lapsed.vk (lapsed.genPublicInputs lapsedContext.root) lapsed.proof =
      some true := by decide
  have acknowledged := handle_signed reference_ecdsaComplete reference_roundTrips made fits fresh proved
  refine ⟨_, by decide, acknowledged, fun enforced => ?_⟩
  obtain ⟨reply, sig, decoded, before, -⟩ := enforced acknowledged
  rw [decodeEvidenceMessage_encode reference_roundTrips (Nat.le_trans fits (by decide))] at decoded
  obtain ⟨rfl, rfl⟩ := Prod.mk.inj (Except.ok.inj decoded)
  exact absurd before (by decide)

end Sample

end UnifiedAttestation.RelyingParty
