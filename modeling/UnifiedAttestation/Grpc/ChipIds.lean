import UnifiedAttestation.Grpc.Reference

/-! The chip whitelist for CSV evidence that brings its own certificates.

The chip id is a text next to the report. When the HSK and CEK are looked up it
chooses them; when they are bundled no signature covers it.
-/

set_option autoImplicit false

namespace UnifiedAttestation.Grpc

open Wire (Bytes fromUtf8)
open Json (Value Serde)

section Whitelist
variable {K : Crates}

/-- The chip id that a serial number spells. -/
def chipIdOf (serialNumber : Bytes) : Option String := (fromUtf8 serialNumber).map trimEndNul

/-- The report of the evidence verifies under the certificates in it and answers the nonce. -/
def Genuine (nonce : Bytes) (parsed : CsvEvidenceJson K) : Prop :=
  ∃ report pair, K.report parsed.attestationReport = .ok report ∧ parsed.certChain.hskCek = some pair ∧
    verifyChain report pair.hsk pair.cek parsed.certChain.pek = .ok () ∧ resize nonce 64 = K.reportData report

/-- The serial number spells a chip id of the whitelist. -/
def CsvPolicy.Trusts (policy : CsvPolicy) (serialNumber : Bytes) : Prop :=
  ∃ chipId ∈ policy.trustedChipIds, chipIdOf serialNumber = some chipId

theorem openCsv_eq_ok {evidence : Bytes} {parsed parsed' : CsvEvidenceJson K} {report : K.AttestationReport}
    {chipId : String} (read : K.json.fromSliceAs readCsvEvidenceJson evidence = .ok parsed) :
    openCsv evidence = .ok (parsed', report, chipId) ↔
      parsed' = parsed ∧ K.report parsed.attestationReport = .ok report ∧
        chipIdOf parsed.serialNumber = some chipId := by
  simp only [openCsv, Wire.bind_eq_ok, Wire.mapError_eq_ok, Wire.okOr_eq_ok, read, chipIdOf, Option.map_eq_some_iff,
    Except.ok.injEq, exists_eq_left', Prod.mk.injEq]
  constructor
  · rintro ⟨_, made, serial, text, rfl, rfl, rfl⟩
    exact ⟨rfl, made, serial, text, rfl⟩
  · rintro ⟨rfl, made, serial, text, rfl⟩
    exact ⟨report, made, serial, text, rfl, rfl, rfl⟩

/-- Evidence with bundled certificates under a whitelist: what it is accepted for. -/
theorem CsvPolicy.verify_bundled {policy : CsvPolicy} {W : World K} {evidence nonce : Bytes}
    {parsed : CsvEvidenceJson K} {result : CsvVerificationResult} (listed : policy.trustedChipIds ≠ [])
    (read : K.json.fromSliceAs readCsvEvidenceJson evidence = .ok parsed)
    (bundled : parsed.certChain.hskCek.isSome = true) :
    policy.verify W evidence nonce = .ok result ↔
      Genuine nonce parsed ∧ ∃ report chipId, K.report parsed.attestationReport = .ok report ∧
        chipIdOf parsed.serialNumber = some chipId ∧ chipId ∈ policy.trustedChipIds ∧
        result = csvResult chipId report := by
  obtain ⟨pair, held⟩ := Option.isSome_iff_exists.mp bundled
  simp only [verify, Wire.bind_eq_ok, Wire.ensure_eq_ok]
  constructor
  · rintro ⟨⟨parsed', report, chipId⟩, opened, pair', resolved, _, chained, _, bound, _, trusted, same⟩
    obtain ⟨rfl, made, spelled⟩ := (openCsv_eq_ok read).mp opened
    rw [held] at resolved
    obtain rfl := Except.ok.inj resolved
    exact ⟨⟨report, pair, made, held, chained, bound⟩, report, chipId, made, spelled, trusted.resolve_left listed,
      (Except.ok.inj same).symm⟩
  · rintro ⟨⟨report, pair', made, held', chained, bound⟩, report', chipId, made', spelled, trusted, rfl⟩
    obtain rfl := Option.some.inj (held.symm.trans held')
    obtain rfl := Except.ok.inj (made.symm.trans made')
    refine ⟨(parsed, report, chipId), (openCsv_eq_ok read).mpr ⟨rfl, made, spelled⟩, pair, ?_, (), chained, (), bound,
      (), .inr trusted, rfl⟩
    simp only [held]
    rfl

/-- Two evidence texts that differ in the serial number only, with bundled certificates. -/
structure SerialsDiffer (first second : Bytes) (parsed parsed' : CsvEvidenceJson K) : Prop where
  read : K.json.fromSliceAs readCsvEvidenceJson first = .ok parsed
  alsoRead : K.json.fromSliceAs readCsvEvidenceJson second = .ok parsed'
  report : parsed'.attestationReport = parsed.attestationReport
  chain : parsed'.certChain = parsed.certChain
  bundled : parsed.certChain.hskCek.isSome = true

/-- If both are accepted they name one chip, and one is accepted only with the other. -/
def ChipTied (policy : CsvPolicy) (W : World K) (nonce first second : Bytes) : Prop :=
  (∀ result result', policy.verify W first nonce = .ok result → policy.verify W second nonce = .ok result' →
      result.chipId = result'.chipId) ∧
    ((∃ result, policy.verify W first nonce = .ok result) ↔ ∃ result', policy.verify W second nonce = .ok result')

theorem CsvPolicy.accepts_iff {policy : CsvPolicy} {W : World K} {evidence nonce : Bytes}
    {parsed : CsvEvidenceJson K} (listed : policy.trustedChipIds ≠ [])
    (read : K.json.fromSliceAs readCsvEvidenceJson evidence = .ok parsed)
    (bundled : parsed.certChain.hskCek.isSome = true) :
    (∃ result, policy.verify W evidence nonce = .ok result) ↔
      Genuine nonce parsed ∧ policy.Trusts parsed.serialNumber := by
  simp only [verify_bundled listed read bundled, Trusts]
  constructor
  · rintro ⟨result, genuine, report, chipId, made, spelled, trusted, rfl⟩
    exact ⟨genuine, chipId, trusted, spelled⟩
  · rintro ⟨⟨report, pair, made, rest⟩, chipId, trusted, spelled⟩
    exact ⟨_, ⟨report, pair, made, rest⟩, report, chipId, made, spelled, trusted, rfl⟩

theorem SerialsDiffer.genuine_iff {nonce first second : Bytes} {parsed parsed' : CsvEvidenceJson K}
    (differ : SerialsDiffer first second parsed parsed') : Genuine nonce parsed' ↔ Genuine nonce parsed := by
  unfold Genuine
  rw [differ.report, differ.chain]

/-- The serial number next to a report with bundled certificates decides nothing exactly when
both serial numbers spell one chip id, when the report is refused for its signatures or its
nonce, or when neither chip id is trusted. -/
theorem chip_tied_iff {policy : CsvPolicy} {W : World K} {nonce first second : Bytes} {parsed parsed' : CsvEvidenceJson K}
    (listed : policy.trustedChipIds ≠ []) (differ : SerialsDiffer first second parsed parsed') :
    ChipTied policy W nonce first second ↔
      chipIdOf parsed.serialNumber = chipIdOf parsed'.serialNumber ∨ ¬ Genuine nonce parsed ∨
        (¬ policy.Trusts parsed.serialNumber ∧ ¬ policy.Trusts parsed'.serialNumber) := by
  have bundled' : parsed'.certChain.hskCek.isSome = true := by
    rw [differ.chain]
    exact differ.bundled
  have accepts := @CsvPolicy.accepts_iff K policy W first nonce parsed listed differ.read differ.bundled
  have accepts' := @CsvPolicy.accepts_iff K policy W second nonce parsed' listed differ.alsoRead bundled'
  rw [differ.genuine_iff] at accepts'
  constructor
  · rintro ⟨oneChip, together⟩
    have named : (∃ result, policy.verify W first nonce = .ok result) →
        chipIdOf parsed.serialNumber = chipIdOf parsed'.serialNumber := by
      intro accepted
      obtain ⟨result', verified'⟩ := together.mp accepted
      obtain ⟨result, verified⟩ := accepted
      have same := oneChip result result' verified verified'
      obtain ⟨-, _, _, -, spelled, -, rfl⟩ := (CsvPolicy.verify_bundled listed differ.read differ.bundled).mp verified
      obtain ⟨-, _, _, -, spelled', -, rfl⟩ := (CsvPolicy.verify_bundled listed differ.alsoRead bundled').mp verified'
      rw [spelled, spelled']
      exact same
    rw [accepts] at named together
    rw [accepts'] at together
    by_cases genuine : Genuine nonce parsed
    · by_cases trusted : policy.Trusts parsed.serialNumber
      · exact .inl (named ⟨genuine, trusted⟩)
      · exact .inr (.inr ⟨trusted, fun trusted' => trusted (together.mpr ⟨genuine, trusted'⟩).2⟩)
    · exact .inr (.inl genuine)
  · rintro (same | forged | ⟨stranger, stranger'⟩)
    · refine ⟨?_, ?_⟩
      · intro result result' verified verified'
        obtain ⟨-, _, _, -, spelled, -, rfl⟩ := (CsvPolicy.verify_bundled listed differ.read differ.bundled).mp verified
        obtain ⟨-, _, _, -, spelled', -, rfl⟩ := (CsvPolicy.verify_bundled listed differ.alsoRead bundled').mp verified'
        exact spelled.symm.trans (same.trans spelled')
      · rw [accepts, accepts', CsvPolicy.Trusts, CsvPolicy.Trusts, same]
    · refine ⟨fun result _ verified _ => ?_, ?_⟩
      · exact absurd (accepts.mp ⟨result, verified⟩).1 forged
      · rw [accepts, accepts']
        exact iff_of_false (fun held => forged held.1) fun held => forged held.1
    · refine ⟨fun result _ verified _ => ?_, ?_⟩
      · exact absurd (accepts.mp ⟨result, verified⟩).2 stranger
      · rw [accepts, accepts']
        exact iff_of_false (fun held => stranger held.2) fun held => stranger' held.2

end Whitelist

section Renamed

/-- Evidence with bundled certificates and a serial number of the sender's choice. -/
def renamedEvidence (serialNumber : List Int) : Value Empty :=
  .object [
    ("attestation_report", .array [.int 7]),
    ("cert_chain", .object [("hsk_cek", .object [("hsk", .null), ("cek", .null)]), ("pek", .null)]),
    ("serial_number", .array (serialNumber.map .int))]

def renamedCrates : Crates := referenceCrates [renamedEvidence [97], renamedEvidence [98], renamedEvidence [97, 0]]

def renamedPolicy : CsvPolicy where
  certDir := ""
  allowKdsFetch := false
  trustedChipIds := ["a", "b"]

def renamedText (serialNumber : List Int) : Bytes := Wire.utf8 ((renamedEvidence serialNumber).render Empty.elim)

def renamedParsed (serialNumber : Bytes) : CsvEvidenceJson renamedCrates where
  attestationReport := ([7] : Bytes)
  certChain := { hskCek := some { hsk := (), cek := () }, pek := () }
  serialNumber

theorem renamed_differ (serialNumber : List Int) (bytes : Bytes)
    (known : (serialNumber, bytes) = ([98], [98]) ∨ (serialNumber, bytes) = ([97, 0], [97, 0])) :
    SerialsDiffer (renamedText [97]) (renamedText serialNumber) (renamedParsed [97]) (renamedParsed bytes) := by
  refine ⟨?_, ?_, rfl, rfl, rfl⟩
  · rfl
  · rcases known with known | known <;> cases known <;> rfl

theorem chip_tied_iff_trailing_zero :
    ChipTied renamedPolicy (referenceWorld renamedCrates 0) [7] (renamedText [97]) (renamedText [97, 0]) ↔
      chipIdOf (renamedParsed [97]).serialNumber = chipIdOf (renamedParsed [97, 0]).serialNumber ∨
        ¬ Genuine [7] (renamedParsed [97]) ∨ (¬ renamedPolicy.Trusts (renamedParsed [97]).serialNumber ∧
          ¬ renamedPolicy.Trusts (renamedParsed [97, 0]).serialNumber) :=
  chip_tied_iff (by decide) (renamed_differ [97, 0] [97, 0] (.inr rfl))

/-- One report is accepted for the one trusted chip and for the other. -/
theorem chip_renamed :
    ∃ result result' : CsvVerificationResult,
      SerialsDiffer (renamedText [97]) (renamedText [98]) (renamedParsed [97]) (renamedParsed [98]) ∧
      renamedPolicy.trustedChipIds ≠ [] ∧
      renamedPolicy.verify (referenceWorld renamedCrates 0) (renamedText [97]) [7] = .ok result ∧
      renamedPolicy.verify (referenceWorld renamedCrates 0) (renamedText [98]) [7] = .ok result' ∧
      result.chipId = some "a" ∧ result'.chipId = some "b" :=
  ⟨_, _, renamed_differ [98] [98] (.inl rfl), by decide, rfl, rfl, by decide, by decide⟩

end Renamed

end UnifiedAttestation.Grpc
