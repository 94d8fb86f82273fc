import UnifiedAttestation.Itrustee.Verify
import UnifiedAttestation.Grpc.Reference
import UnifiedAttestation.Json.Reader
import UnifiedAttestation.Runs.Paths

/-! What a verified iTrustee report says about the challenge and the IMA log next to it.

The library ties the report to one nonce of 64 bytes. Where a log comes along its front half
is the challenge and its back half the hash of the log; where none does, all of it is the
challenge. An empty log is not hashed.
-/

set_option autoImplicit false

namespace UnifiedAttestation.Itrustee

open Wire (Bytes Outcome utf8)
open Json (Value)
open Eventlog (Detail)

variable {K : Crates}

section Inversions
variable {challenge nonce imaLog : Bytes} {ima : Detail} {report : Value K.json.Float}

/-- The library verifies a report for one nonce only. -/
def NonceBound (K : Crates) : Prop :=
  ∀ dataBuf nonce nonce' filename filename', K.teeVerifyReport dataBuf nonce policy filename = 0 →
    K.teeVerifyReport dataBuf nonce' policy filename' = 0 → nonce = nonce'

theorem buffer_short {bytes : Bytes} (short : bytes.length ≤ maxChallengeLen) : buffer bytes = bytes := by
  have fits : bytes.length < UInt32.size := Nat.lt_of_le_of_lt short (by decide)
  rw [buffer, Nat.mod_eq_of_lt fits, List.take_length]

theorem imaVerify_hash {expected : Bytes} {appId : Option String} (logged : imaLog ≠ [])
    (verified : imaVerify K imaLog [expected] appId = .ok ima) : K.sha256 imaLog = expected := by
  rw [imaVerify, if_neg logged] at verified
  simp only [Wire.bind_eq_ok, Wire.orBail_eq_ok, Wire.ensure_eq_ok, List.head?_cons] at verified
  obtain ⟨_, _, _, _, _, same, _, hashed, _⟩ := verified
  exact hashed.trans (Option.some.inj same).symm

theorem verifyImaLog_eq_ok :
    verifyImaLog K report challenge imaLog = .ok (ima, nonce) ↔ ∃ reportNonce uuid,
      (index (index report "payload") "nonce").asStr = some reportNonce ∧
      (index (index report "payload") "uuid").asStr = some uuid ∧
      K.decodeBase64Url (utf8 reportNonce) = .ok nonce ∧ nonce.length = maxChallengeLen ∧
      nonce.take 32 = challenge ∧ imaVerify K imaLog [nonce.drop 32] (some uuid) = .ok ima := by
  simp only [verifyImaLog, Wire.bind_eq_ok, Wire.orBail_eq_ok, Wire.mapError_eq_ok, Wire.ensure_eq_ok]
  constructor
  · rintro ⟨reportNonce, told, uuid, named, nonceAll, decoded, _, sized, _, fresh, detail, verified, same⟩
    cases same
    exact ⟨reportNonce, uuid, told, named, decoded, sized, fresh, verified⟩
  · rintro ⟨reportNonce, uuid, told, named, decoded, sized, fresh, verified⟩
    exact ⟨reportNonce, told, uuid, named, nonce, decoded, (), sized, (), fresh, ima, verified, rfl⟩

/-- What accepted evidence went through. -/
structure Passes (K : Crates) (challenge : Bytes) (evidence : ItrusteeEvidence) (report : Value K.json.Float)
    (uuid : String) (ima : Option Detail) (nonce : Bytes) : Prop where
  read : K.json.fromStr evidence.report = .ok report
  sized : 0 < challenge.length ∧ challenge.length ≤ maxChallengeLen
  checked : verifyIma K report challenge evidence.imaLog = .ok (ima, nonce)
  named : (index (index report "payload") "uuid").asStr = some uuid
  referenced : K.fileExists (refFile uuid) = true
  verified : K.teeVerifyReport (buffer (utf8 evidence.report)) (buffer nonce) policy (cString (refFile uuid)) = 0

theorem evaluateEvidence_eq_ok {evidence : ItrusteeEvidence} {claim : TeeClaim K.json.Float} :
    evaluateEvidence K challenge evidence = .ok claim ↔ ∃ report uuid ima nonce,
      Passes K challenge evidence report uuid ima nonce ∧ claim = claimed report ima := by
  simp only [evaluateEvidence, Wire.bind_eq_ok, Wire.orBail_eq_ok, Wire.mapError_eq_ok, Wire.ensure_eq_ok]
  constructor
  · rintro ⟨report, read, _, sized, ⟨ima, nonce⟩, checked, uuid, named, _, referenced, _, verified, same⟩
    cases same
    exact ⟨report, uuid, ima, nonce, ⟨read, sized, checked, named, referenced, verified⟩, rfl⟩
  · rintro ⟨report, uuid, ima, nonce, passes, rfl⟩
    exact ⟨report, passes.read, (), passes.sized, (ima, nonce), passes.checked, uuid, passes.named, (),
      passes.referenced, (), passes.verified, rfl⟩

theorem evaluate_eq {userData bytes : Bytes} {evidence : ItrusteeEvidence}
    (decoded : K.decodeBase64Url userData = .ok challenge) (read : K.fromSlice bytes = .ok evidence) :
    evaluate K userData bytes = evaluateEvidence K challenge evidence := by
  rw [evaluate, decoded, read]
  rfl

theorem verifyIma_some {found : Option Detail} :
    verifyIma K report challenge (some imaLog) = .ok (found, nonce) ↔
      K.imaVerifier = true ∧ ∃ ima, found = some ima ∧ verifyImaLog K report challenge imaLog = .ok (ima, nonce) := by
  cases built : K.imaVerifier with
  | false => simp [verifyIma, built, Wire.bail]
  | true =>
    simp only [verifyIma, built, if_true, Wire.map_eq_ok, true_and]
    constructor
    · rintro ⟨⟨ima, own⟩, verified, same⟩
      cases same
      exact ⟨ima, rfl, verified⟩
    · rintro ⟨ima, rfl, verified⟩
      exact ⟨(ima, nonce), verified, rfl⟩

end Inversions

section Pairs
variable {userData bytes challenge imaLog : Bytes} {report : String} {claim : TeeClaim K.json.Float}

/-- The nonce of accepted evidence fills a buffer of the library. -/
theorem Passes.nonce_length {evidence : ItrusteeEvidence} {value : Value K.json.Float} {uuid : String}
    {ima : Option Detail} {nonce : Bytes} (passes : Passes K challenge evidence value uuid ima nonce) :
    nonce.length ≤ maxChallengeLen := by
  obtain ⟨text, log⟩ := evidence
  cases log with
  | none =>
    cases passes.checked
    exact passes.sized.2
  | some imaLog =>
    obtain ⟨_, _, _, checked⟩ := verifyIma_some.mp passes.checked
    obtain ⟨_, _, _, _, _, sized, _⟩ := verifyImaLog_eq_ok.mp checked
    exact Nat.le_of_eq sized

/-- A report accepted with a log is accepted with that log or an empty one for the same
challenge, and without a log for the challenge and the hash in one; with nothing else. -/
theorem accepted_pairs_iff (bound : NonceBound K) (decoded : K.decodeBase64Url userData = .ok challenge)
    (read : K.fromSlice bytes = .ok ⟨report, some imaLog⟩) (logged : imaLog ≠ [])
    (accepted : evaluate K userData bytes = .ok claim) {userData' bytes' challenge' : Bytes} {imaLog' : Option Bytes}
    {claim' : TeeClaim K.json.Float} (distinct : ∀ other ∈ imaLog', K.sha256 other = K.sha256 imaLog → other = imaLog)
    (decoded' : K.decodeBase64Url userData' = .ok challenge') (read' : K.fromSlice bytes' = .ok ⟨report, imaLog'⟩) :
    evaluate K userData' bytes' = .ok claim' ↔
      challenge' = challenge ∧ imaLog' = some imaLog ∧ claim' = claim ∨
      challenge' = challenge ∧ imaLog' = some [] ∧ claim' = { claim with ima := some fun _ => none } ∨
      challenge' = challenge ++ K.sha256 imaLog ∧ imaLog' = none ∧ claim' = { claim with ima := none } := by
  rw [evaluate_eq decoded read] at accepted
  obtain ⟨value, uuid, ima, nonce, passes, rfl⟩ := evaluateEvidence_eq_ok.mp accepted
  obtain ⟨built, detail, rfl, checked⟩ := verifyIma_some.mp passes.checked
  obtain ⟨reportNonce, _, told, named, stated, sized, front, verified⟩ := verifyImaLog_eq_ok.mp checked
  cases passes.named.symm.trans named
  have hashed := imaVerify_hash logged verified
  have whole : challenge ++ K.sha256 imaLog = nonce := by rw [← front, hashed, List.take_append_drop]
  have own : buffer nonce = nonce := buffer_short passes.nonce_length
  have endorsed := passes.verified
  rw [own] at endorsed
  rw [evaluate_eq decoded' read', evaluateEvidence_eq_ok]
  constructor
  · rintro ⟨value', uuid', ima', nonce', passes', rfl⟩
    cases passes.read.symm.trans passes'.read
    have endorsed' := passes'.verified
    rw [buffer_short passes'.nonce_length] at endorsed'
    cases bound _ _ _ _ _ endorsed endorsed'
    cases imaLog' with
    | none =>
      obtain ⟨rfl, same⟩ := Prod.mk.inj (Except.ok.inj passes'.checked)
      exact .inr (.inr ⟨same.trans whole.symm, rfl, rfl⟩)
    | some other =>
      obtain ⟨_, detail', rfl, checked'⟩ := verifyIma_some.mp passes'.checked
      obtain ⟨_, _, _, named', _, _, front', verified'⟩ := verifyImaLog_eq_ok.mp checked'
      cases named.symm.trans named'
      have same : challenge' = challenge := front'.symm.trans front
      by_cases empty : other = []
      · subst empty
        cases verified'
        exact .inr (.inl ⟨same, rfl, rfl⟩)
      · have hashed' := imaVerify_hash empty verified'
        cases distinct other rfl (hashed'.trans hashed.symm)
        cases verified.symm.trans verified'
        exact .inl ⟨same, rfl, rfl⟩
  · rintro (⟨rfl, rfl, rfl⟩ | ⟨rfl, rfl, rfl⟩ | ⟨rfl, rfl, rfl⟩)
    · exact ⟨value, uuid, some detail, nonce, { passes with }, rfl⟩
    · have stripped : verifyIma K value challenge' (some []) = .ok (some fun _ => none, nonce) :=
        verifyIma_some.mpr ⟨built, _, rfl, verifyImaLog_eq_ok.mpr
          ⟨reportNonce, uuid, told, named, stated, sized, front, rfl⟩⟩
      exact ⟨value, uuid, _, nonce, { passes with checked := stripped }, rfl⟩
    · rw [whole]
      have long : 0 < nonce.length ∧ nonce.length ≤ maxChallengeLen := by
        rw [sized]
        decide
      exact ⟨value, uuid, none, nonce, { passes with sized := long, checked := rfl }, rfl⟩

end Pairs

section References

theorem isValidUuid_plain {uuid : String} (valid : isValidUuid uuid = true) :
    '/' ∉ uuid.toList ∧ uuid.toList ≠ [] ∧ uuid.toList ≠ ['.'] ∧ uuid.toList ≠ ['.', '.'] := by
  simp only [isValidUuid, Bool.and_eq_true, decide_eq_true_eq, List.all_eq_true, Bool.or_eq_true, beq_iff_eq] at valid
  obtain ⟨⟨-, dashes⟩, each⟩ := valid
  have digits : ∀ char ∈ uuid.toList, char ≠ '/' ∧ char ≠ '.' := by
    intro char held
    rcases each char held with digit | dash
    · constructor <;> rintro rfl <;> revert digit <;> decide
    · subst dash
      decide
  refine ⟨fun slash => (digits '/' slash).1 rfl, ?_, ?_, ?_⟩
  · intro empty
    rw [empty] at dashes
    cases dashes
  · intro dot
    rw [dot] at dashes
    cases dashes
  · intro dots
    rw [dots] at dashes
    cases dashes

theorem imaBaseDir_ends (noAs : Bool) : (imaBaseDir noAs).toList.getLast? = some 'a' := by
  cases noAs <;> decide

theorem digestList_plain : '/' ∉ "digest_list_file".toList ∧ "digest_list_file".toList ≠ [] ∧
    "digest_list_file".toList ≠ ['.'] ∧ "digest_list_file".toList ≠ ['.', '.'] := by
  decide

/-- The list of all applications lies in the directory itself. -/
theorem imaReferenceFile_inside (noAs : Bool) :
    (Paths.resolve (imaBaseDir noAs)).Inside (Paths.resolve (imaReferenceFile noAs)) := by
  obtain ⟨plain, named, dot, dots⟩ := digestList_plain
  have joined : imaReferenceFile noAs = Paths.join (imaBaseDir noAs) "digest_list_file" := by
    rw [Paths.join_behind (imaBaseDir_ends noAs) (by decide) (Paths.isAbsolute_plain plain), imaReferenceFile,
      String.append_assoc]
    rfl
  rw [joined, Paths.inside_join_below_iff, Paths.resolve_plain plain named dot dots]
  exact ⟨⟨List.nil_suffix, .inl (Nat.zero_le _)⟩, (List.cons_ne_nil _ _).symm⟩

theorem appReferenceFile_eq {uuid : String} (valid : isValidUuid uuid = true) :
    appReferenceFile K uuid = Paths.join (Paths.join (imaBaseDir K.noAs) uuid) "digest_list_file" := by
  obtain ⟨plain, named, -, -⟩ := isValidUuid_plain valid
  obtain ⟨last, ends⟩ : ∃ last, uuid.toList.getLast? = some last := ⟨_, List.getLast?_eq_some_getLast named⟩
  have separated : last ≠ '/' := fun same => plain (same ▸ List.mem_of_mem_getLast? ends)
  have ends' : (imaBaseDir K.noAs ++ "/" ++ uuid).toList.getLast? = some last := by
    rw [String.toList_append, List.getLast?_append, ends, Option.some_or]
  rw [Paths.join_behind (imaBaseDir_ends K.noAs) (by decide) (Paths.isAbsolute_plain plain),
    Paths.join_behind ends' separated (Paths.isAbsolute_plain digestList_plain.1), appReferenceFile]
  simp only [String.append_assoc]
  rfl

theorem refFile_eq (uuid : String) : refFile uuid = Paths.join itrusteeRefValueDir ("itrustee_" ++ uuid) := by
  have relative : ¬ Paths.isAbsolute ("itrustee_" ++ uuid) := by
    intro absolute
    rw [Paths.isAbsolute, String.toList_append] at absolute
    cases absolute
  rw [@Paths.join_behind _ _ 'e' (by decide) (by decide) relative, refFile]
  simp only [String.append_assoc]
  rfl

/-- The reference list for an IMA log stays in its directory whatever the report names. The
file that the library gets does so exactly when that name leads below its directory. -/
theorem references_confined (uuid : String) :
    (Paths.resolve (imaBaseDir K.noAs)).Inside (Paths.resolve (getImaReferenceFilePath K (some uuid))) ∧
      ((Paths.resolve itrusteeRefValueDir).Inside (Paths.resolve (refFile uuid)) ↔
        (Paths.resolve itrusteeRefValueDir).HoldsBelow (Paths.resolve ("itrustee_" ++ uuid))) := by
  refine ⟨?_, by rw [refFile_eq]; exact Paths.inside_join_below_iff⟩
  rw [getImaReferenceFilePath]
  by_cases chosen : (isValidUuid uuid && K.fileExists (appReferenceFile K uuid)) = true
  · rw [if_pos chosen]
    rw [Bool.and_eq_true] at chosen
    obtain ⟨plain, named, dot, dots⟩ := isValidUuid_plain chosen.1
    obtain ⟨filePlain, fileNamed, fileDot, fileDots⟩ := digestList_plain
    rw [appReferenceFile_eq chosen.1, Paths.inside_join_iff (Paths.isAbsolute_plain filePlain)
      (Paths.parts_plain filePlain fileNamed fileDot) fileDots, Paths.resolve_plain plain named dot dots]
    exact ⟨List.nil_suffix, .inl (Nat.zero_le _)⟩
  · rw [if_neg chosen]
    exact imaReferenceFile_inside K.noAs

end References

section Stripped

def strippedHash : Bytes := Wire.toBeBytes 32 0xbb17dd266e011e82375e3c7057492542f2438aa301f5488fa30789dd74ab33b2

def strippedNonce : Bytes := List.replicate 32 7 ++ strippedHash

def strippedUuid : String := "f68fd704-6eb1-4d14-b218-722850eb3ef0"

def strippedReport : Value Empty := .object [
  ("handler", .string "report-output"),
  ("payload", .object [
    ("version", .string "TEE.RA.1.0"),
    ("nonce", .string (Grpc.urlSafeBase64 strippedNonce)),
    ("uuid", .string strippedUuid),
    ("hash_alg", .string "HS256")])]

def strippedText : String := Json.Serde.compact.print strippedReport

/-- The evidence around the report. -/
def strippedEvidence (imaLog : Value Empty) : Value Empty :=
  .object [("report", .string strippedText), ("ima_log", imaLog)]

def loggedEvidence : Value Empty := strippedEvidence (.array (Ima.shellLog.map fun byte => .int byte.toNat))

def loggedBytes : Bytes := Json.Serde.compact.toVec loggedEvidence

def unloggedBytes : Bytes := Json.Serde.compact.toVec (strippedEvidence .null)

/-- SHA-256 and the libraries where one log and one report need them. -/
def strippedCrates : Crates where
  json := Json.Serde.compact
  fromSlice bytes :=
    if bytes = unloggedBytes then .ok ⟨strippedText, none⟩
    else if bytes = loggedBytes then .ok ⟨strippedText, some Ima.shellLog⟩
    else Wire.bail "expected value"
  decodeBase64Url text :=
    if text = utf8 (Grpc.urlSafeBase64 strippedNonce) then .ok strippedNonce
    else if text = utf8 (Grpc.urlSafeBase64 (List.replicate 32 7)) then .ok (List.replicate 32 7)
    else .error "InvalidByte"
  sha256 bytes := if bytes = Ima.shellLog then strippedHash else 0 :: bytes
  parseIma := Ima.shellEnv.parse
  readLines _ := .ok Ima.shellRefs
  fileExists path := decide (path = refFile strippedUuid)
  noAs := false
  imaVerifier := true
  teeVerifyReport dataBuf nonce _ filename :=
    if dataBuf = buffer (utf8 strippedText) ∧ nonce = strippedNonce ∧ filename = refFile strippedUuid then 0 else 1

theorem stripped_bound : NonceBound strippedCrates := by
  intro dataBuf nonce nonce' filename filename' first second
  simp only [strippedCrates, ite_eq_left_iff, one_ne_zero, imp_false, not_not] at first second
  rw [first.2.1, second.2.1]

theorem strippedHash_head : strippedHash.head? = some 0xbb := by decide

theorem stripped_injective : Function.Injective strippedCrates.sha256 := by
  intro log log' same
  simp only [strippedCrates] at same
  split at same
  · split at same
    · rename_i first second
      rw [first, second]
    · have heads := congrArg List.head? same
      rw [strippedHash_head] at heads
      cases heads
  · split at same
    · have heads := congrArg List.head? same
      rw [strippedHash_head] at heads
      cases heads
    · exact (List.cons.inj same).2

theorem stripped_unlogged : strippedCrates.fromSlice unloggedBytes = .ok ⟨strippedText, none⟩ := by
  simp only [strippedCrates, if_true]

theorem stripped_logged : strippedCrates.fromSlice loggedBytes = .ok ⟨strippedText, some Ima.shellLog⟩ := by
  have other : loggedBytes ≠ unloggedBytes := by
    intro same
    have first := Json.Serde.compact_fromSlice loggedEvidence
    have second := Json.Serde.compact_fromSlice (strippedEvidence .null)
    rw [← unloggedBytes, ← same, loggedBytes, first] at second
    cases second
  simp only [strippedCrates, if_neg other, if_true]

theorem stripped_decodes :
    strippedCrates.decodeBase64Url (utf8 (Grpc.urlSafeBase64 (List.replicate 32 7))) = .ok (List.replicate 32 7) := by
  have other : utf8 (Grpc.urlSafeBase64 (List.replicate 32 7)) ≠ utf8 (Grpc.urlSafeBase64 strippedNonce) := by
    decide
  simp only [strippedCrates, if_neg other, if_true]

theorem stripped_whole : strippedCrates.decodeBase64Url (utf8 (Grpc.urlSafeBase64 strippedNonce)) = .ok strippedNonce := by
  simp only [strippedCrates, if_true]

theorem stripped_hashed : strippedCrates.sha256 Ima.shellLog = strippedHash := by
  simp only [strippedCrates, if_true]

theorem compact_fromStr {value : Value Empty} {text : String} (printed : text = Json.Serde.compact.print value) :
    Json.Serde.compact.fromStr text = .ok value := by
  subst printed
  exact Json.Serde.compact_fromSlice value

theorem stripped_read : strippedCrates.json.fromStr strippedText = .ok strippedReport := compact_fromStr rfl

theorem stripped_verified :
    ∃ detail, imaVerify strippedCrates Ima.shellLog [strippedHash] (some strippedUuid) = .ok detail := by
  have logged : Ima.shellLog ≠ [] := by decide
  have path : getImaReferenceFilePath strippedCrates (some strippedUuid) = imaReferenceFile false := by decide
  have parsed : strippedCrates.parseIma Ima.shellLog = .ok (Ima.shellParsed Ima.shellEvents) := by
    simp only [strippedCrates, Ima.shell_parses]
  have refs : Ima.failedToRead (imaReferenceFile false) (Ima.fileReader strippedCrates.ima (imaReferenceFile false)) =
      .ok Ima.shellRefs := by
    decide
  have events : Ima.verifyImaEvents Ima.shellEvents Ima.shellRefs =
      .ok (Ima.detailOf Ima.shellRefs Ima.shellEvents) := Ima.verifyImaEvents_eq_ok.mpr ⟨by decide, by decide, rfl⟩
  refine ⟨Ima.detailOf Ima.shellRefs Ima.shellEvents, ?_⟩
  simp only [imaVerify, if_neg logged, parsed, stripped_hashed, path, refs, events, Wire.orBail_some, List.head?_cons,
    Wire.ensure, if_true, bind, Except.bind, Ima.shellParsed]
  rfl

theorem stripped_accepted : ∃ claim, evaluate strippedCrates (utf8 (Grpc.urlSafeBase64 (List.replicate 32 7))) loggedBytes =
    .ok claim := by
  rw [evaluate_eq stripped_decodes stripped_logged]
  obtain ⟨detail, verified⟩ := stripped_verified
  have back : strippedNonce.drop 32 = strippedHash := by decide
  have own : buffer strippedNonce = strippedNonce := buffer_short (by decide)
  have file : cString (refFile strippedUuid) = refFile strippedUuid := by decide
  refine ⟨_, evaluateEvidence_eq_ok.mpr ⟨strippedReport, strippedUuid, some detail, strippedNonce, {
    read := stripped_read
    sized := by decide
    checked := verifyIma_some.mpr ⟨rfl, detail, rfl, verifyImaLog_eq_ok.mpr
      ⟨_, strippedUuid, rfl, rfl, stripped_whole, by decide, by decide, by rw [back]; exact verified⟩⟩
    named := rfl
    referenced := by decide
    verified := by
      simp only [own, file, strippedCrates, and_self, if_true] }, rfl⟩⟩

/-- The report is accepted without its log, too, once the challenge is the whole nonce. -/
theorem accepted_pairs_iff_stripped :
    ∃ claim, evaluate strippedCrates (utf8 (Grpc.urlSafeBase64 strippedNonce)) unloggedBytes = .ok claim ∧
      claim.ima = none := by
  obtain ⟨claim, accepted⟩ := stripped_accepted
  have whole : strippedNonce = List.replicate 32 7 ++ strippedCrates.sha256 Ima.shellLog := by
    rw [stripped_hashed, strippedNonce]
  refine ⟨{ claim with ima := none }, ?_, rfl⟩
  exact (accepted_pairs_iff stripped_bound stripped_decodes stripped_logged (by decide) accepted
    (fun _ _ same => stripped_injective same) stripped_whole stripped_unlogged).mpr (.inr (.inr ⟨whole, rfl, rfl⟩))

end Stripped

end UnifiedAttestation.Itrustee
