import UnifiedAttestation.Csv.Chain
import UnifiedAttestation.Grpc.ChipIds
import UnifiedAttestation.Runs.Paths

/-! Which files the chip id of CSV evidence makes the verifiers read.

The chip id is joined to a directory as it is. So it chooses any file with the name of the
certificates, unless it goes down again what it climbs.
-/

set_option autoImplicit false

namespace UnifiedAttestation.Csv

open Wire (Bytes)
open Paths (isAbsolute resolve)
open Grpc (CsvPolicy CsvEvidenceJson World openCsv)

section Locations

/-- The directory that the native verifier keeps certificates of chips in. -/
def nativeDir (policy : CsvPolicy) : String := Grpc.join policy.certDir "hsk_cek"

/-- The file that `load_hsk_cek` reads. -/
def nativePath (policy : CsvPolicy) (chipId : String) : String :=
  Grpc.join (Grpc.join (nativeDir policy) chipId) "hsk_cek.cert"

theorem joinPath_eq (base part : String) : joinPath base part = Paths.join base part := rfl

theorem grpc_join_eq (base part : String) : Grpc.join base part = Paths.join base part := by
  have starts : part.startsWith "/" = true ↔ isAbsolute part := by
    rw [String.startsWith_string_iff, isAbsolute]
    rcases part.toList with _ | ⟨first, rest⟩ <;> simp [eq_comm]
  have ends : (base.isEmpty || base.endsWith "/") = true ↔ base.toList.getLast?.all (· = '/') = true := by
    rw [Bool.or_eq_true, ← String.endsWith_toSlice, String.Slice.endsWith_string_iff, String.copy_toSlice,
      String.isEmpty_iff, ← String.toList_eq_nil_iff]
    rcases List.eq_nil_or_concat base.toList with chars | ⟨front, last, chars⟩
    · simp [chars]
    · simp [chars]
      exact eq_comm
  rw [Grpc.join, Paths.join, if_congr starts rfl (if_congr ends rfl rfl)]

theorem certFile_parts : Paths.parts hskCekCertFile = [hskCekCertFile.toList] := by
  decide

theorem nativePath_inside_iff (policy : CsvPolicy) (chipId : String) :
    (resolve (nativeDir policy)).Inside (resolve (nativePath policy chipId)) ↔
      (resolve (nativeDir policy)).Holds (resolve chipId) := by
  rw [nativePath, grpc_join_eq, grpc_join_eq]
  exact Paths.inside_join_iff (by decide) certFile_parts (by decide)

theorem chipFile_inside_iff (chipId : String) :
    (resolve hskCekDefaultDir).Inside (resolve (chipFile chipId)) ↔
      (resolve hskCekDefaultDir).Holds (resolve chipId) := by
  rw [chipFile, joinPath_eq, joinPath_eq]
  exact Paths.inside_join_iff (by decide) certFile_parts (by decide)

end Locations

section Reads
variable {K : Grpc.Crates} {policy : CsvPolicy} {W W' : World K} {chipId : String}

/-- The files of the world count only where the verifier reads. -/
theorem loadHskCek_congr (file : W.readFile (nativePath policy chipId) = W'.readFile (nativePath policy chipId))
    (fetch : W.fetch = W'.fetch) : policy.loadHskCek W chipId = policy.loadHskCek W' chipId := by
  have same : W.readFile (Grpc.join (Grpc.join (Grpc.join policy.certDir "hsk_cek") chipId) "hsk_cek.cert") =
      W'.readFile (Grpc.join (Grpc.join (Grpc.join policy.certDir "hsk_cek") chipId) "hsk_cek.cert") := file
  simp only [CsvPolicy.loadHskCek, same, fetch]

/-- Without bundled certificates the file under the chip id is the only one that is read. -/
theorem verify_congr {evidence expected : Bytes} {parsed : CsvEvidenceJson K} {report : K.AttestationReport}
    (opened : openCsv evidence = .ok (parsed, report, chipId))
    (file : W.readFile (nativePath policy chipId) = W'.readFile (nativePath policy chipId))
    (fetch : W.fetch = W'.fetch) : policy.verify W evidence expected = policy.verify W' evidence expected := by
  have resolved : policy.resolveHskCek W chipId parsed.certChain.hskCek =
      policy.resolveHskCek W' chipId parsed.certChain.hskCek := by
    cases parsed.certChain.hskCek with
    | some bundled => rfl
    | none => simp only [CsvPolicy.resolveHskCek, loadHskCek_congr file fetch]
  -- The chip id that is read is the one of the statement.
  apply Wire.bind_congr_ok
  intro found read
  cases opened.symm.trans read
  simp only [resolved]

end Reads

section Confined
variable {K : Grpc.Crates}

/-- The file that is read for a chip id lies strictly inside the directory of certificates
exactly when the directory holds the chip id: with `..` that stay inside the chip id, or
that it goes down again, or as an absolute path that begins with the directory. The same is
so of the default directory of `evidence-verify`. -/
theorem certificate_paths_confined_iff {evidence : Bytes} {parsed : CsvEvidenceJson K} {report : K.AttestationReport}
    {chipId : String} (policy : CsvPolicy) (opened : openCsv evidence = .ok (parsed, report, chipId)) :
    (∀ (W W' : World K) (expected : Bytes), W.readFile (nativePath policy chipId) = W'.readFile (nativePath policy chipId) →
      W.fetch = W'.fetch → policy.verify W evidence expected = policy.verify W' evidence expected) ∧
    ((resolve (nativeDir policy)).Inside (resolve (nativePath policy chipId)) ↔
      (resolve (nativeDir policy)).Holds (resolve chipId)) ∧
    ∀ chipId, (resolve hskCekDefaultDir).Inside (resolve (chipFile chipId)) ↔
      (resolve hskCekDefaultDir).Holds (resolve chipId) := by
  refine ⟨fun W W' expected file fetch => verify_congr opened file fetch, ?_, ?_⟩
  · exact nativePath_inside_iff policy chipId
  · exact chipFile_inside_iff

end Confined

section Strayed

/-- Evidence without bundled certificates and with a serial number of the sender's choice. -/
def strayedEvidence (serialNumber : String) : Json.Value Empty :=
  .object [
    ("attestation_report", .array [.int 7]),
    ("cert_chain", .object [("hsk_cek", .null), ("pek", .null)]),
    ("serial_number", .array ((Wire.utf8 serialNumber).map fun byte => .int byte.toNat))]

def strayedCrates : Grpc.Crates := Grpc.referenceCrates [strayedEvidence "/tmp", strayedEvidence "x/../7"]

def strayedText (serialNumber : String) : Bytes := Wire.utf8 ((strayedEvidence serialNumber).render Empty.elim)

def strayedParsed (serialNumber : String) : CsvEvidenceJson strayedCrates where
  attestationReport := ([7] : Bytes)
  certChain := { hskCek := none, pek := () }
  serialNumber := Wire.utf8 serialNumber

/-- The default configuration, with nothing but the offline cache. -/
def strayedPolicy : CsvPolicy where
  certDir := "/opt/hygon/csv"
  allowKdsFetch := false
  trustedChipIds := []

theorem strayed_opened : openCsv (strayedText "/tmp") = .ok (strayedParsed "/tmp", ([7] : Bytes), "/tmp") := by
  rfl

theorem inner_opened : openCsv (strayedText "x/../7") = .ok (strayedParsed "x/../7", ([7] : Bytes), "x/../7") := by
  rfl

/-- An absolute chip id leaves the directory, and so does one that climbs. -/
theorem chip_id_leaves :
    openCsv (strayedText "/tmp") = .ok (strayedParsed "/tmp", ([7] : Bytes), "/tmp") ∧
      (strayedParsed "/tmp").certChain.hskCek = none ∧
      ¬ (resolve (nativeDir strayedPolicy)).Inside (resolve (nativePath strayedPolicy "/tmp")) ∧
      ¬ (resolve hskCekDefaultDir).Inside (resolve (chipFile "../../tmp")) := by
  refine ⟨strayed_opened, rfl, ?_, ?_⟩
  · rw [nativePath_inside_iff]
    decide +kernel
  · rw [chipFile_inside_iff]
    decide

theorem certificate_paths_confined_iff_inner :
    (resolve (nativeDir strayedPolicy)).Inside (resolve (nativePath strayedPolicy "x/../7")) := by
  have held : (resolve (nativeDir strayedPolicy)).Holds (resolve "x/../7") := by
    decide
  exact (certificate_paths_confined_iff strayedPolicy inner_opened).2.1.mpr held

end Strayed

end UnifiedAttestation.Csv
