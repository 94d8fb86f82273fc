import UnifiedAttestation.Csv.Chain
import UnifiedAttestation.Json.Reader
import UnifiedAttestation.TeeEvidence.Collect

/-! What the verifier makes of the evidence that the collector writes.

The collector prints the evidence of a backend as a text inside of its file, and its program
then replaces the text by what it reads as. The verifier takes either form, and judges the
very evidence of the backend against the challenge of the request.
-/

set_option autoImplicit false

namespace UnifiedAttestation.TeeEvidence

open Wire (Bytes Outcome bail ensure okOr orBail context utf8 fromUtf8)
open Json (Value Serde depthMembers)
open Csv (TeeType HygonCsvEvidence RawFile)
open Itrustee (ItrusteeEvidence)
open Virtcca (VirtccaEvidence)

section Reading
variable {F : Type}

def readRequestFields (field : String → Option (Value F)) : Option EvidenceRequest := do
  let uuid ← Value.optional Value.asStr (field "uuid")
  let challenge ← (field "challenge").bind Value.asBytes
  let ima ← Value.optional Value.asBool (field "ima")
  some { uuid, challenge, ima }

def readRequest (value : Value F) : Option EvidenceRequest :=
  (value.fields ["uuid", "challenge", "ima"]).bind readRequestFields

def readFile (field : String → Option (Value F)) : Option (RawFile F) := do
  let tee ← field "tee"
  let request ← (field "request").bind readRequest
  let evidence ← field "evidence"
  some { tee, challenge := request.challenge, evidence }

def readCsv (field : String → Option (Value F)) : Option HygonCsvEvidence := do
  let mode ← (field "mode").bind Value.asStr
  let report ← (field "report").bind Value.asStr
  let nonce ← (field "nonce").bind Value.asStr
  let imaLog ← Value.optional Value.asBytes (field "ima_log")
  some { mode, report, nonce, imaLog }

def readItrustee (field : String → Option (Value F)) : Option ItrusteeEvidence := do
  let report ← (field "report").bind Value.asStr
  let imaLog ← Value.optional Value.asBytes (field "ima_log")
  some { report, imaLog }

def readVirtcca (field : String → Option (Value F)) : Option VirtccaEvidence := do
  let evidence ← (field "evidence").bind Value.asBytes
  let devCert ← (field "dev_cert").bind Value.asBytes
  let imaLog ← Value.optional Value.asBytes (field "ima_log")
  let eventLog ← Value.optional Value.asBytes (field "event_log")
  some { evidence, devCert, imaLog, eventLog }

@[simp] theorem asBytes_bytesValue (bytes : Bytes) : (bytesValue bytes : Value F).asBytes = some bytes := by
  have each : ∀ bytes : Bytes, (bytes.map fun byte => (.int byte.toNat : Value F)).mapM Value.asU8 = some bytes := by
    intro bytes
    induction bytes with
    | nil => rfl
    | cons byte rest ih =>
      have small : (0 : Int) ≤ byte.toNat ∧ (byte.toNat : Int) < 256 := by
        have bound := byte.toNat_lt
        omega
      simp [Value.asU8, small, ih, UInt8.ofNat_toNat]
  simp [bytesValue, Value.asBytes, Value.asArray, each]

theorem optional_optionValue {β : Type} {read : Value F → Option β} {write : β → Value F}
    (undoes : ∀ value, read (write value) = some value) (visible : ∀ value, write value ≠ .null) (value : Option β) :
    Value.optional read (some (optionValue write value)) = some value := by
  cases value with
  | none => rfl
  | some value => rw [optionValue, Value.optional_some (visible value), undoes, Option.map_some]

theorem optional_bytes (bytes : Option Bytes) :
    Value.optional Value.asBytes (some (optionValue bytesValue bytes : Value F)) = some bytes :=
  optional_optionValue asBytes_bytesValue (fun _ shown => by cases shown) bytes

theorem readRequest_members (request : EvidenceRequest) :
    readRequestFields (Json.Map.get (requestMembers request : Json.Map F)) = some request := by
  have uuid : Value.optional Value.asStr (some (optionValue .string request.uuid : Value F)) = some request.uuid :=
    @optional_optionValue F String Value.asStr .string (fun _ => rfl) (fun _ shown => by cases shown) _
  have ima : Value.optional Value.asBool (some (optionValue .bool request.ima : Value F)) = some request.ima :=
    @optional_optionValue F Bool Value.asBool .bool (fun _ => rfl) (fun _ shown => by cases shown) _
  simp [readRequestFields, requestMembers, uuid, ima]

theorem readCsv_members (evidence : HygonCsvEvidence) :
    readCsv (Json.Map.get (csvMembers evidence : Json.Map F)) = some evidence := by
  simp [readCsv, csvMembers, Value.asStr, optional_bytes]

theorem readItrustee_members (evidence : ItrusteeEvidence) :
    readItrustee (Json.Map.get (itrusteeMembers evidence : Json.Map F)) = some evidence := by
  simp [readItrustee, itrusteeMembers, Value.asStr, optional_bytes]

theorem readVirtcca_members (evidence : VirtccaEvidence) :
    readVirtcca (Json.Map.get (virtccaMembers evidence : Json.Map F)) = some evidence := by
  simp [readVirtcca, virtccaMembers, optional_bytes]

end Reading

section Printed
variable {J : Serde}

/-- Members that were printed and read any number of times. -/
def Reprinted (members kept : Json.Map J.Float) : Prop :=
  depthMembers kept ≤ depthMembers members ∧
    ∃ times, ∀ key, Json.Map.get kept key = (Json.Map.get members key).map J.again^[times]

theorem Reprinted.refl (members : Json.Map J.Float) : Reprinted members members :=
  ⟨Nat.le_refl _, 0, fun _ => Option.map_id'.symm⟩

theorem Reprinted.once {members kept later : Json.Map J.Float} (reprinted : Reprinted members kept)
    (each : ∀ key, Json.Map.get later key = (Json.Map.get kept key).map J.again)
    (depth : depthMembers later ≤ depthMembers kept) : Reprinted members later := by
  obtain ⟨shallow, times, before⟩ := reprinted
  refine ⟨Nat.le_trans depth shallow, times + 1, fun key => ?_⟩
  rw [each, before, Option.map_map, ← Function.iterate_succ']

/-- A reader of fields that sees no difference in a field that was printed and read. -/
def Blind {β : Type} (read : (String → Option (Value J.Float)) → Option β) : Prop :=
  ∀ field, read (fun key => (field key).map J.again) = read field

theorem Blind.reprinted {β : Type} {read : (String → Option (Value J.Float)) → Option β} (blind : Blind read)
    {members kept : Json.Map J.Float} (reprinted : Reprinted members kept) :
    read (Json.Map.get kept) = read (Json.Map.get members) := by
  obtain ⟨-, times, each⟩ := reprinted
  have same : Json.Map.get kept = fun key => (Json.Map.get members key).map J.again^[times] := funext each
  rw [same]
  clear each same
  induction times with
  | zero => simp
  | succ times ih =>
    have step := blind fun key => (Json.Map.get members key).map J.again^[times]
    simp only [Option.map_map, ← Function.iterate_succ'] at step
    rw [step, ih]

/-- An object that was printed as a member is read like the one that was written. -/
theorem again_reprinted {members kept : Json.Map J.Float} (nested : J.Nested) (reprinted : Reprinted members kept) :
    ∃ later, J.again (.object kept) = .object later ∧ Reprinted members later := by
  obtain ⟨later, again, each, depth⟩ := nested kept
  exact ⟨later, again, reprinted.once each depth⟩

variable (faithful : J.Faithful)
include faithful

theorem blind_readCsv : Blind (J := J) readCsv := by
  intro field
  simp only [readCsv, Serde.bind_again faithful.again_asStr, faithful.optional_again faithful.again_asBytes]

theorem blind_readItrustee : Blind (J := J) readItrustee := by
  intro field
  simp only [readItrustee, Serde.bind_again faithful.again_asStr, faithful.optional_again faithful.again_asBytes]

theorem blind_readVirtcca : Blind (J := J) readVirtcca := by
  intro field
  simp only [readVirtcca, Serde.bind_again faithful.again_asBytes, faithful.optional_again faithful.again_asBytes]

theorem blind_readRequestFields : Blind (J := J) readRequestFields := by
  intro field
  simp only [readRequestFields, Serde.bind_again faithful.again_asBytes, faithful.optional_again faithful.again_asStr,
    faithful.optional_again faithful.again_asBool]

end Printed

section Verdicts
variable {K : Csv.Crates} {V : Itrustee.Crates} {shown : Itrustee.TeeClaim V.json.Float → Value K.json.Float}

/-- A derived reader of printed objects reads them by their fields. -/
def Derives (J : Serde) {β : Type} (parse : Bytes → Outcome β)
    (read : (String → Option (Value J.Float)) → Option β) : Prop :=
  ∀ (members : Json.Map J.Float) (result : β), depthMembers members < 127 →
    read (fun key => (Json.Map.get members key).map J.again) = some result →
    parse (J.toVec (.object members)) = .ok result

/-- The verifiers of the build, and their readers. -/
structure Linked (K : Csv.Crates) (V : Itrustee.Crates) (shown : Itrustee.TeeClaim V.json.Float → Value K.json.Float) :
    Prop where
  file : Derives K.json K.evidenceFile readFile
  csv : Derives K.json K.csvEvidence readCsv
  itrustee : Derives K.json V.fromSlice readItrustee
  virtcca : ∀ vcca, K.virtccaVerifier = some vcca → Derives K.json vcca.fromSlice readVirtcca
  itrusteeVerifier : ∀ verifier, K.itrusteeVerifier = some verifier → ∀ challenge evidence,
    verifier challenge evidence = (Itrustee.evaluate V challenge evidence).map shown

/-- `evaluate` of iTrustee evidence that has been read. -/
def judgeItrustee (V : Itrustee.Crates) (userData : Bytes) (evidence : ItrusteeEvidence) :
    Outcome (Itrustee.TeeClaim V.json.Float) := do
  let challenge ← (V.decodeBase64Url userData).mapError
    fun err => .error [s!"decode base64url challenge failed: {err}"]
  Itrustee.evaluateEvidence V challenge evidence

/-- `evaluate` of VirtCCA evidence that has been read. -/
def judgeVirtcca (vcca : Virtcca.Crates) (userData : Bytes) (evidence : VirtccaEvidence) : Outcome Virtcca.TeeClaim := do
  let challenge ← (vcca.decodeBase64Url userData).mapError
    fun err => .error [s!"decode base64url challenge failed: {err}"]
  ensure (0 < challenge.length ∧ challenge.length ≤ Virtcca.maxChallengeLen)
    (.error [s!"challenge len is error, expecting 0 < len <= {Virtcca.maxChallengeLen}, got {challenge.length}"])
  Virtcca.Evidence.verifyRead vcca challenge evidence

/-- The verdict on the evidence of a backend itself. -/
def judge (K : Csv.Crates) (V : Itrustee.Crates) (shown : Itrustee.TeeClaim V.json.Float → Value K.json.Float)
    (challenge : Bytes) : Collected → Outcome (Csv.TeeClaim K)
  | .csvUser evidence =>
    if K.csvUserVerifier then (Csv.evaluateEvidence K "user" challenge evidence).map .csv
    else Csv.disabled K .hygonCsvUser
  | .csvKernel evidence =>
    if K.csvKernelVerifier then (Csv.evaluateEvidence K "kernel" challenge evidence).map .csv
    else Csv.disabled K .hygonCsvKernel
  | .itrustee evidence =>
    if K.itrusteeVerifier.isSome then ((judgeItrustee V challenge evidence).map shown).map .itrustee
    else Csv.disabled K .itrustee
  | .virtcca evidence =>
    match K.virtccaVerifier with
    | some vcca => (judgeVirtcca vcca challenge evidence).map .virtcca
    | none => Csv.disabled K .virtcca

theorem Derives.reprinted {J : Serde} {β : Type} {parse : Bytes → Outcome β}
    {read : (String → Option (Value J.Float)) → Option β} (derives : Derives J parse read) (blind : Blind read)
    {members kept : Json.Map J.Float} {result : β} (shallow : depthMembers members ≤ 100)
    (written : read (Json.Map.get members) = some result) (reprinted : Reprinted members kept) :
    parse (J.toVec (.object kept)) = .ok result := by
  refine derives kept result (Nat.lt_of_le_of_lt (Nat.le_trans reprinted.1 shallow) (by decide)) ?_
  rw [blind, blind.reprinted reprinted, written]

theorem depth_optionValue {F β : Type} {write : β → Value F} {bound : Nat} (each : ∀ value, (write value).depth ≤ bound)
    (value : Option β) : (optionValue write value).depth ≤ bound := by
  cases value with
  | none => exact Nat.zero_le _
  | some value => exact each value

theorem depth_bytesValue {F : Type} (bytes : Bytes) : (bytesValue bytes : Value F).depth ≤ 1 := by
  have flat : Json.depthItems (bytes.map fun byte => (.int byte.toNat : Value F)) ≤ 0 := by
    refine Json.depthItems_le fun item member => ?_
    obtain ⟨byte, -, rfl⟩ := List.mem_map.mp member
    exact Nat.le_refl 0
  rw [bytesValue, Value.depth]
  omega

theorem Collected.depth_members {F : Type} (collected : Collected) :
    depthMembers (collected.members : Json.Map F) ≤ 1 := by
  have log : ∀ bytes : Option Bytes, (optionValue bytesValue bytes : Value F).depth ≤ 1 :=
    depth_optionValue depth_bytesValue
  cases collected with
  | csvUser evidence | csvKernel evidence =>
    have ima := log evidence.imaLog
    simp only [members, csvMembers, depthMembers, Value.depth]
    omega
  | itrustee evidence =>
    have ima := log evidence.imaLog
    simp only [members, itrusteeMembers, depthMembers, Value.depth]
    omega
  | virtcca evidence =>
    have first := depth_bytesValue (F := F) evidence.evidence
    have second := depth_bytesValue (F := F) evidence.devCert
    have ima := log evidence.imaLog
    have events := log evidence.eventLog
    simp only [members, virtccaMembers, depthMembers]
    omega

/-- The verifier judges the evidence of a backend, however often it was printed. -/
theorem verifyEvidence_reprinted (faithful : K.json.Faithful) (linked : Linked K V shown) {collected : Collected}
    {kept : Json.Map K.json.Float} (challenge : Bytes) (reprinted : Reprinted collected.members kept) :
    Csv.verifyEvidence K { tee := collected.tee, challenge, evidence := .object kept } =
      judge K V shown challenge collected := by
  have shallow := Nat.le_trans (collected.depth_members (F := K.json.Float)) (by decide : 1 ≤ 100)
  have bytes : Csv.evidenceToBytes K (.object kept) = K.json.toVec (.object kept) := rfl
  cases collected with
  | csvUser evidence | csvKernel evidence =>
    have read := linked.csv.reprinted (blind_readCsv faithful) shallow (readCsv_members evidence) reprinted
    simp only [Csv.verifyEvidence, Collected.tee, bytes, Csv.evaluate, read, context, judge, bind, Except.bind]
  | itrustee evidence =>
    have read := linked.itrustee.reprinted (blind_readItrustee faithful) shallow (readItrustee_members evidence) reprinted
    cases built : K.itrusteeVerifier with
    | none => simp only [Csv.verifyEvidence, Collected.tee, built, judge, Option.isSome_none, Bool.false_eq_true, if_false]
    | some verifier =>
      have verdict := linked.itrusteeVerifier verifier built challenge (K.json.toVec (.object kept))
      rw [Itrustee.evaluate, read] at verdict
      simp only [Csv.verifyEvidence, Collected.tee, built, bytes, verdict, judge, Option.isSome_some, if_true]
      rfl
  | virtcca evidence =>
    cases built : K.virtccaVerifier with
    | none => simp only [Csv.verifyEvidence, Collected.tee, built, judge]
    | some vcca =>
      have read := (linked.virtcca vcca built).reprinted (blind_readVirtcca faithful) shallow (readVirtcca_members evidence)
        reprinted
      simp only [Csv.verifyEvidence, Collected.tee, built, bytes, judge, Virtcca.evaluate, Virtcca.Evidence.verify, read]
      rfl

/-- The type of evidence is read as it was written. -/
theorem deserialize_name (collected : Collected) :
    TeeType.deserialize K (.string collected.tee.name) = .ok collected.tee := by
  have spelled : ∀ tee : TeeType, TeeType.spellings.lookup (tee.name.map Char.toLower) = some tee := by
    intro tee
    cases tee <;> decide +kernel
  simp only [TeeType.deserialize, spelled, okOr]

/-- The evidence of a file: the text of an object, or the object. -/
inductive Holds (collected : Collected) : Value K.json.Float → Prop where
  | text : Holds collected (.string (K.json.print (.object collected.members)))
  | object {kept : Json.Map K.json.Float} : Reprinted collected.members kept → Holds collected (.object kept)

/-- What a file must hold for the verifier to judge the evidence of a backend. -/
structure FileOf (K : Csv.Crates) (request : EvidenceRequest) (collected : Collected) (file : Json.Map K.json.Float) :
    Prop where
  shallow : depthMembers file ≤ 100
  tee : Json.Map.get file "tee" = some (.string collected.tee.name)
  request : ∃ kept, Json.Map.get file "request" = some (.object kept) ∧ Reprinted (requestMembers request) kept
  evidence : ∃ value, Json.Map.get file "evidence" = some value ∧ Holds collected value

theorem FileOf.verdict {request : EvidenceRequest} {collected : Collected} {file : Json.Map K.json.Float}
    (faithful : K.json.Faithful) (nested : K.json.Nested) (linked : Linked K V shown)
    (fileOf : FileOf K request collected file) :
    Csv.verifyEvidenceJson K (K.json.toVec (.object file)) = judge K V shown request.challenge collected := by
  obtain ⟨kept, there, reprinted⟩ := fileOf.request
  obtain ⟨later, again, reprinted⟩ := again_reprinted nested reprinted
  have asked : readRequest (K.json.again (.object kept)) = some request := by
    have fields : (Value.object later).fields ["uuid", "challenge", "ima"] = some (Json.Map.get later) := rfl
    rw [again, readRequest, fields, Option.bind_some, (blind_readRequestFields faithful).reprinted reprinted,
      readRequest_members]
  obtain ⟨value, held, holds⟩ := fileOf.evidence
  have read : readFile (fun key => (Json.Map.get file key).map K.json.again) =
      some ⟨.string collected.tee.name, request.challenge, K.json.again value⟩ := by
    simp only [readFile, fileOf.tee, there, held, Option.map_some, faithful.again_string, asked, bind, Option.bind]
  have parsed := linked.file file _ (Nat.lt_of_le_of_lt fileOf.shallow (by decide)) read
  have verdict : Csv.verifyEvidenceJson K (K.json.toVec (.object file)) =
      Csv.verifyEvidence K { tee := collected.tee, challenge := request.challenge, evidence := K.json.again value } := by
    simp only [Csv.verifyEvidenceJson, Csv.readEvidenceFile, parsed, deserialize_name, Except.mapError, context, bind,
      Except.bind]
  rw [verdict]
  cases holds with
  | text =>
    rw [faithful.again_string]
    exact verifyEvidence_reprinted faithful linked request.challenge (.refl _)
  | object reprinted =>
    obtain ⟨last, again, reprinted⟩ := again_reprinted nested reprinted
    rw [again]
    exact verifyEvidence_reprinted faithful linked request.challenge reprinted

theorem depth_requestMembers {F : Type} (request : EvidenceRequest) :
    depthMembers (requestMembers request : Json.Map F) ≤ 1 := by
  have uuid : (optionValue .string request.uuid : Value F).depth ≤ 1 := depth_optionValue (fun _ => Nat.zero_le _) _
  have challenge := depth_bytesValue (F := F) request.challenge
  have ima : (optionValue .bool request.ima : Value F).depth ≤ 1 := depth_optionValue (fun _ => Nat.zero_le _) _
  simp only [requestMembers, depthMembers]
  omega

theorem depth_fileMembers (J : Serde) (request : EvidenceRequest) (collected : Collected) :
    depthMembers (fileMembers J request collected) ≤ 2 := by
  have request := depth_requestMembers (F := J.Float) request
  simp only [fileMembers, requestValue, depthMembers, Value.depth]
  omega

theorem fileOf_fileMembers (request : EvidenceRequest) (collected : Collected) :
    FileOf K request collected (fileMembers K.json request collected) where
  shallow := Nat.le_trans (depth_fileMembers _ _ _) (by decide)
  tee := rfl
  request := ⟨_, rfl, .refl _⟩
  evidence := ⟨_, rfl, .text⟩

/-- Whatever a backend collects is written by the library and by its program, and the
verifier's verdict on either file is that on the evidence itself. -/
theorem written_verdict {M : Machine K.json} {build : Build} {request : EvidenceRequest} {collected : Collected}
    (faithful : K.json.Faithful) (readsBack : K.json.ReadsBack) (nested : K.json.Nested) (linked : Linked K V shown)
    (answered : collect M build request = .ok collected) :
    ∃ file output, teeGetEvidence M build request = .ok file ∧ main M build request = .ok output ∧
      Csv.verifyEvidenceJson K file = judge K V shown request.challenge collected ∧
      Csv.verifyEvidenceJson K output = judge K V shown request.challenge collected := by
  have whole : teeGetEvidence M build request = .ok (K.json.toVec (.object (fileMembers K.json request collected))) := by
    rw [teeGetEvidence, answered]
    rfl
  have first := fileOf_fileMembers (K := K) request collected
  obtain ⟨kept, read, each, depth⟩ := faithful.readBack readsBack (Nat.lt_of_le_of_lt first.shallow (by decide))
  have shallow := collected.depth_members (F := K.json.Float)
  obtain ⟨inner, readInner, eachInner, depthInner⟩ := faithful.readBack readsBack (Nat.lt_of_le_of_lt shallow (by decide))
  have text : Json.Map.get kept "evidence" = some (.string (K.json.print (.object collected.members))) := by
    rw [each]
    exact congrArg some (faithful.again_string _)
  have expanded : expandEvidence K.json (.object kept) = .object (Json.Map.insert kept "evidence" (.object inner)) := by
    have parsed : K.json.fromStr (K.json.print (.object collected.members)) = .ok (.object inner) := readInner
    simp only [expandEvidence, Value.get, text, parsed]
  have output : main M build request =
      .ok (K.json.toVec (.object (Json.Map.insert kept "evidence" (.object inner)))) := by
    simp only [main, whole, read, expanded, context, Except.mapError, bind, Except.bind]
  obtain ⟨later, again, reprinted⟩ := again_reprinted nested (.refl (requestMembers request))
  have second : FileOf K request collected (Json.Map.insert kept "evidence" (.object inner)) := {
    shallow := by
      have file := depth_fileMembers K.json request collected
      apply Json.depthMembers_insert (by omega)
      rw [Value.depth]
      omega
    tee := by
      rw [Json.Map.get_insert, if_neg (by decide), each]
      exact congrArg some (faithful.again_string _)
    request := by
      refine ⟨later, ?_, reprinted⟩
      rw [Json.Map.get_insert, if_neg (by decide), each]
      exact congrArg some again
    evidence := by
      refine ⟨_, by rw [Json.Map.get_insert, if_pos rfl], .object ?_⟩
      exact (Reprinted.refl _).once eachInner depthInner }
  exact ⟨_, _, whole, output, first.verdict faithful nested linked, second.verdict faithful nested linked⟩

end Verdicts

section Guest

def readObject {β : Type} (read : (String → Option (Value Empty)) → Option β) : Value Empty → Option β
  | .object members => read (Json.Map.get members)
  | _ => none

/-- A derived reader over the library of compact texts. -/
def parseCompact {β : Type} (read : (String → Option (Value Empty)) → Option β) (text : Bytes) : Outcome β :=
  (Serde.compact.fromSliceAs (readObject read) text).mapError fun message => .error [message]

theorem derives_parseCompact {β : Type} (read : (String → Option (Value Empty)) → Option β) :
    Derives Serde.compact (parseCompact read) read := by
  intro members result _ found
  have same : (fun key => (Json.Map.get members key).map Serde.compact.again) = Json.Map.get members :=
    funext fun key => Option.map_id'
  rw [same] at found
  have parsed : Serde.compact.fromSliceAs (readObject read) (Serde.compact.toVec (.object members)) = .ok result :=
    Serde.fromSliceAs_eq_ok.mpr ⟨.object members, Serde.compact_fromSlice (.object members), found⟩
  exact Wire.mapError_eq_ok.mpr parsed

def decodeUrlSafeText (text : Bytes) : Except String Bytes :=
  match fromUtf8 text with
  | some text => Grpc.decodeUrlSafeBase64 text
  | none => .error "Invalid byte"

def decodeStandardText (text : Bytes) : Outcome Bytes :=
  match fromUtf8 text with
  | some text => (Grpc.decodeStandardBase64 text).mapError fun message => .error [message]
  | none => .error (.error ["Invalid byte"])

/-- A verifier of Hygon CSV evidence, on a machine without certificate files. -/
def guestCrates : Csv.Crates :=
  { Csv.unchainedCrates with
    json := Serde.compact
    evidenceFile := parseCompact readFile
    csvEvidence := parseCompact readCsv
    unexpected := fun _ => "null"
    decodeUrlSafe := decodeUrlSafeText
    decodeStandard := decodeStandardText
    itrusteeVerifier := none }

/-- The verifier has no part for iTrustee evidence. -/
def guestItrustee : Itrustee.Crates where
  json := Serde.compact
  fromSlice := parseCompact readItrustee
  decodeBase64Url := decodeUrlSafeText
  sha256 := Csv.unchainedCrates.sha256
  parseIma _ := .error (.error ["ima log is empty"])
  readLines _ := .error (.error ["No such file or directory (os error 2)"])
  fileExists _ := false
  noAs := false
  imaVerifier := false
  teeVerifyReport _ _ _ _ := -1

/-- The code of the session, by HMAC with SM3. -/
def guestMac : Bytes := Wire.toBeBytes 32 0x2e2d5c6779f6cd55a450a69e400eb1115002575d8c80ed9b3cb39c4364d21393

def guestReport : Bytes := Csv.unchainedReport.take macOffset ++ guestMac

/-- The SM3 digest of the request for the nonce. -/
def guestDigest : Bytes := Wire.toBeBytes 32 0xee356d7c745d3906f6a80e34e658bc1f271696933ba4fba17353f39d14ce616e

def guestSm3 (data : Bytes) : Option Bytes :=
  if data = userData ++ Csv.unchainedNonce then some guestDigest else none

def guestHmac (key data : Bytes) : Option Bytes :=
  if key = Csv.unchainedNonce ∧ data = (guestReport.drop pekCertOffset).take (macOffset - pekCertOffset) then some guestMac
  else none

/-- The firmware answers one request. -/
def guestCall (pa : Nat) (page : Page) : Int × Page :=
  if pa = 0x1000 ∧ page.bytes.take 112 = userData ++ Csv.unchainedNonce ++ guestDigest then (0, .fill guestReport)
  else (-22, page)

def guest : Machine guestCrates.json where
  encodeStandard := Grpc.standardBase64
  encodeUrlSafe := Grpc.urlSafeBase64
  decodeUrlSafe := decodeUrlSafeText
  sha256 := Csv.unchainedCrates.sha256
  utf8Error _ := "invalid utf-8 sequence"
  debug errors := "[" ++ ", ".intercalate errors ++ "]"
  evpSm3 := guestSm3
  hmacSm3 := guestHmac
  mmap := true
  malloc := true
  vaToPa := some 0x1000
  hypercall := guestCall
  openGuest := false
  ioctl page := (-1, page)
  procModules := none
  remoteAttest _ := (0xffff0000, [])
  tsiDevice := false
  tsiContext := false
  attestationToken _ := (-1, [])
  devCert := (-1, [])
  ccel := none

def guestBuild : Build where
  csvKernel := false
  csvUser := true
  itrustee := false
  virtcca := false
  exclusive both := Bool.false_ne_true both.1

def guestRequest : EvidenceRequest := ⟨none, utf8 "Bw", none⟩

def guestEvidence : HygonCsvEvidence where
  mode := "user"
  report := Grpc.standardBase64 (clearReserved2 guestReport)
  nonce := Grpc.urlSafeBase64 Csv.unchainedNonce
  imaLog := none

theorem Page.take_fill {front : Bytes} {count : Nat} (sized : front.length = count) (fits : count ≤ pageSize) :
    (Page.fill front).bytes.take count = front := by
  rw [fill, List.take_take, Nat.min_eq_left fits, List.take_append_of_le_length (Nat.le_of_eq sized.symm)]
  exact List.take_of_length_le (Nat.le_of_eq sized)

theorem guestReport_front : (Csv.unchainedReport.take macOffset).length = macOffset := by
  simp only [Csv.unchainedReport, Csv.unchainedSigned, Csv.unchainedNonce, Csv.sevenDigest, Csv.coordinate, Csv.u32ToLe,
    List.length_append, List.length_take, List.length_replicate, List.length_reverse, Wire.toBeBytes_length]
  decide

theorem guestReport_length : guestReport.length = csvAttestationReportSize := by
  rw [guestReport, List.length_append, guestReport_front]
  rfl

theorem guest_hashes : csvSm3 guest (userData ++ Csv.unchainedNonce) = some guestDigest := by
  have answer : guestSm3 (userData ++ Csv.unchainedNonce) = some guestDigest := if_pos rfl
  have sm3 : guest.evpSm3 = guestSm3 := rfl
  rw [csvSm3, sm3, answer]
  rfl

theorem guest_answers :
    askHypervisor guest (.fill (userData ++ Csv.unchainedNonce ++ guestDigest)) = .ok (.fill guestReport) := by
  have sized : (userData ++ Csv.unchainedNonce ++ guestDigest).length = 112 := by decide
  have answer : guestCall 0x1000 (.fill (userData ++ Csv.unchainedNonce ++ guestDigest)) = (0, .fill guestReport) :=
    if_pos ⟨rfl, Page.take_fill sized (by decide)⟩
  have call : guest.hypercall = guestCall := rfl
  have address : guest.vaToPa = some 0x1000 := rfl
  simp only [askHypervisor, address, call, okOr, bind, Except.bind, answer, ensure, if_true]

theorem guest_authenticates : csvVerifySessionMac guest guestReport Csv.unchainedNonce = true := by
  have answer : guestHmac Csv.unchainedNonce ((guestReport.drop pekCertOffset).take (macOffset - pekCertOffset)) =
      some guestMac := by
    rw [guestHmac, if_pos ⟨rfl, rfl⟩]
  have hmac : guest.hmacSm3 = guestHmac := rfl
  have stated : (guestReport.drop macOffset).take csvHashLen = guestMac := by
    rw [guestReport, List.drop_left' guestReport_front]
    rfl
  have sized : (some guestMac).filter (fun digest => digest.length = csvHashLen) = some guestMac := rfl
  rw [csvVerifySessionMac, csvSm3Hmac, hmac, answer, stated, sized]
  exact decide_eq_true rfl

theorem getAttestationReport_ok {J : Serde} {M : Machine J} {ask : Page → Except Int Page} {nonce hash : Bytes}
    {page : Page} (sized : nonce.length = csvGuestAttestationNonceSize)
    (hashed : csvSm3 M (userData ++ nonce) = some hash) (asked : ask (.fill (userData ++ nonce ++ hash)) = .ok page)
    (authentic : csvVerifySessionMac M (page.bytes.take csvAttestationReportSize) nonce = true) :
    getAttestationReport M true ask csvAttestationReportSize nonce =
      .ok (clearReserved2 (page.bytes.take csvAttestationReportSize)) := by
  simp only [getAttestationReport, ensure, sized, hashed, asked, authentic, okOr, Nat.le_refl, if_true, bind, Except.bind,
    Nat.sub_self, List.replicate_zero, List.append_nil]

theorem guest_report :
    csvUserGetAttestationReport guest csvAttestationReportSize Csv.unchainedNonce = .ok (clearReserved2 guestReport) := by
  have there : (Page.fill guestReport).bytes.take csvAttestationReportSize = guestReport :=
    Page.take_fill guestReport_length (by decide)
  have nonce : Csv.unchainedNonce.length = csvGuestAttestationNonceSize := by decide
  have mac : csvVerifySessionMac guest ((Page.fill guestReport).bytes.take csvAttestationReportSize)
      Csv.unchainedNonce = true := by
    rw [there, guest_authenticates]
  have answered := getAttestationReport_ok nonce guest_hashes guest_answers mac
  rw [there] at answered
  exact answered

theorem guest_collects : csvUserGetEvidence guest guestRequest = .ok guestEvidence := by
  have nonce : challengeToNonce guest guestRequest.challenge = .ok Csv.unchainedNonce := by decide
  rw [csvUserGetEvidence, csvGetEvidence, nonce]
  refine Wire.bind_eq_ok.mpr ⟨_, rfl, ?_⟩
  exact Wire.bind_eq_ok.mpr ⟨_, Wire.mapError_eq_ok.mpr guest_report, rfl⟩

/-- The libraries of the verifier undo and repeat what those of the collector do. -/
structure SameLibraries {J : Serde} (M : Machine J) (K : Csv.Crates) : Prop where
  sha256 : K.sha256 = M.sha256
  decodes : ∀ text bytes, M.decodeUrlSafe text = .ok bytes → K.decodeUrlSafe text = .ok bytes
  urlSafe : ∀ bytes, K.decodeUrlSafe (utf8 (M.encodeUrlSafe bytes)) = .ok bytes
  standard : ∀ bytes, K.decodeStandard (utf8 (M.encodeStandard bytes)) = .ok bytes

theorem guest_libraries : SameLibraries guest guestCrates where
  sha256 := rfl
  decodes _ _ decoded := decoded
  urlSafe bytes := by
    have decodes : ∀ text, guestCrates.decodeUrlSafe text = decodeUrlSafeText text := fun _ => rfl
    have encodes : guest.encodeUrlSafe bytes = Grpc.urlSafeBase64 bytes := rfl
    simp only [decodes, encodes, decodeUrlSafeText, Wire.fromUtf8_utf8, Grpc.decodeUrlSafeBase64_encode]
  standard bytes := by
    have decodes : ∀ text, guestCrates.decodeStandard text = decodeStandardText text := fun _ => rfl
    have encodes : guest.encodeStandard bytes = Grpc.standardBase64 bytes := rfl
    simp only [decodes, encodes, decodeStandardText, Wire.fromUtf8_utf8, Grpc.decodeStandardBase64_encode]
    rfl

theorem guest_accepted :
    ∃ claim, Csv.evaluateEvidence guestCrates "user" guestRequest.challenge guestEvidence = .ok claim := by
  have told : (Csv.evaluateReport Csv.unchainedCrates "user" "user" Csv.unchainedNonce (clearReserved2 guestReport)).map
      Csv.CsvClaim.certChain = .ok false := by
    decide +kernel
  obtain ⟨claim, accepted, _⟩ := Wire.map_eq_ok.mp told
  have expected : Csv.challengeToNonce guestCrates guestRequest.challenge = .ok Csv.unchainedNonce := by
    decide
  have nonce := guest_libraries.urlSafe Csv.unchainedNonce
  have report := guest_libraries.standard (clearReserved2 guestReport)
  have same : ∀ nonce bytes, Csv.evaluateReport guestCrates "user" "user" nonce bytes =
      Csv.evaluateReport Csv.unchainedCrates "user" "user" nonce bytes := fun _ _ => rfl
  rw [← same] at accepted
  refine ⟨claim, ?_⟩
  refine Wire.bind_eq_ok.mpr ⟨(), Wire.ensure_eq_ok.mpr rfl, Wire.bind_eq_ok.mpr ⟨(), Wire.ensure_eq_ok.mpr rfl, ?_⟩⟩
  refine Wire.bind_eq_ok.mpr ⟨Csv.unchainedNonce, expected, ?_⟩
  refine Wire.bind_eq_ok.mpr ⟨Csv.unchainedNonce, Wire.mapError_eq_ok.mpr nonce, ?_⟩
  refine Wire.bind_eq_ok.mpr ⟨(), Wire.ensure_eq_ok.mpr rfl, ?_⟩
  exact Wire.bind_eq_ok.mpr ⟨_, Wire.context_eq_ok.mpr report, accepted⟩

theorem guest_linked : Linked guestCrates guestItrustee fun _ => .null where
  file := derives_parseCompact readFile
  csv := derives_parseCompact readCsv
  itrustee := derives_parseCompact readItrustee
  virtcca _ built := by cases built
  itrusteeVerifier _ built := by cases built

theorem collect_csvUser {J : Serde} {M : Machine J} {build : Build} {request : EvidenceRequest}
    {evidence : HygonCsvEvidence} (kernel : build.csvKernel = false) (user : build.csvUser = true)
    (answered : csvUserGetEvidence M request = .ok evidence) :
    collect M build request = .ok (.csvUser evidence) := by
  simp only [collect, attempt, kernel, user, answered, Except.map, Bool.false_eq_true, if_false, if_true]

/-- The evidence of the guest is written, and accepted in either form. -/
theorem written_verdict_guest : ∃ file output claim,
    teeGetEvidence guest guestBuild guestRequest = .ok file ∧ main guest guestBuild guestRequest = .ok output ∧
      Csv.verifyEvidenceJson guestCrates file = .ok (.csv claim) ∧
      Csv.verifyEvidenceJson guestCrates output = .ok (.csv claim) := by
  have collected := @collect_csvUser _ guest guestBuild guestRequest _ rfl rfl guest_collects
  obtain ⟨claim, accepted⟩ := guest_accepted
  have judged : judge guestCrates guestItrustee (fun _ => .null) guestRequest.challenge (.csvUser guestEvidence) =
      .ok (.csv claim) := by
    have user : guestCrates.csvUserVerifier = true := rfl
    rw [judge, if_pos user, accepted]
    rfl
  obtain ⟨file, output, first, second, verdict, verdict'⟩ := written_verdict Serde.compact_faithful
    Serde.compact_readsBack Serde.compact_nested guest_linked collected
  exact ⟨file, output, claim, first, second, verdict.trans judged, verdict'.trans judged⟩

end Guest

end UnifiedAttestation.TeeEvidence
