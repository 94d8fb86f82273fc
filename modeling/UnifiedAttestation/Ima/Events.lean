import UnifiedAttestation.Eventlog.Report

/-! The check of IMA logs.

A log is parsed by a library, which also extends the measured registers. The register of
the second event is compared with a value of the token, and every file of the log is then
looked up among the reference digests.
-/

set_option autoImplicit false

namespace UnifiedAttestation.Ima

open Wire (Bytes Outcome bail ensure orPanic)
open Grpc (hexEncode)
open Eventlog (Detail Rems)

/-- The data of an event; other forms than `ima-ng` only by how they are shown. -/
inductive EventData where
  | imaNg (digest : Bytes) (name : String)
  | other (shown : String)

structure Event where
  pcrIndex : Nat
  data : EventData

/-- What the library makes of a log. -/
structure Parsed where
  events : List Event
  pcrSha256 : Nat → Option Bytes

/-- What the check uses of its surroundings and its build. -/
structure Env where
  parse : Bytes → Outcome Parsed
  readLines : String → Outcome (List String)
  fileExists : String → Bool
  noAs : Bool

def fileReader (env : Env) (filePath : String) : Outcome (List String) :=
  (env.readLines filePath).map fun lines => lines.map Eventlog.trimEnd

/-- Note whether the file of an event is trusted; a later event of a name replaces an earlier one. -/
def noteEvent (imaRefs : List String) (imaDetail : Detail) (event : Event) : Outcome Detail :=
  match event.data with
  | .other shown => bail s!"Invalid event {shown}"
  | .imaNg digest name =>
    if name = "boot_aggregate" then .ok imaDetail
    else .ok (Function.update imaDetail name (some (decide (hexEncode digest ∈ imaRefs))))

def verifyImaEvents (events : List Event) (imaRefs : List String) : Outcome Detail := do
  ensure (2 ≤ events.length) (.error ["No IMA measurement records for files found."])
  events.foldlM (noteEvent imaRefs) fun _ => none

def imaBaseDir (noAs : Bool) : String :=
  if noAs then "/etc/attestation/attestation-agent/local_verifier/virtcca/ima"
  else "/etc/attestation/attestation-service/verifier/virtcca/ima"

def imaReferenceFile (noAs : Bool) : String := imaBaseDir noAs ++ "/digest_list_file"

def isAsciiHexdigit (char : Char) : Bool :=
  char.isDigit || ('a' ≤ char && char ≤ 'f') || ('A' ≤ char && char ≤ 'F')

def isValidRimHex (text : String) : Bool :=
  decide (text.utf8ByteSize ∈ [64, 96, 128]) && text.toList.all isAsciiHexdigit

def getImaReferenceFilePath (env : Env) (appId : Option String) : String :=
  match appId with
  | none => imaReferenceFile env.noAs
  | some appId =>
    let appPath := imaBaseDir env.noAs ++ "/" ++ appId ++ "/digest_list_file"
    if isValidRimHex appId && env.fileExists appPath then appPath else imaReferenceFile env.noAs

/-- An error of a file in the words of its reader. -/
def failedToRead {β : Type} (path : String) : Outcome β → Outcome β
  | .ok value => .ok value
  | .error (.error chain) => bail ("Failed to read " ++ path ++ ": " ++ chain.headD "")
  | .error .panic => .error .panic

/-- `VirtCCAImaVerify::ima_verify`. -/
def imaVerify (env : Env) (imaLog : Bytes) (cvmRem : Rems) (appId : Option String) : Outcome Detail :=
  if imaLog = [] then .ok fun _ => none
  else do
    let parsed ← env.parse imaLog
    ensure (2 ≤ parsed.events.length) (.error ["No IMA measurement records for files found."])
    let second ← orPanic parsed.events[1]?
    ensure (1 ≤ second.pcrIndex ∧ second.pcrIndex ≤ 4) (.error ["Invalid pcr_index for IMA"])
    let pcrValue ← orPanic (parsed.pcrSha256 second.pcrIndex)
    ensure (hexEncode pcrValue = hexEncode (cvmRem (Fin.ofNat 4 (second.pcrIndex - 1))))
      (.error ["IMA log hash verification failed. Please check the log and reference data, " ++
        "and verify if PCR has been extended to PCR4."])
    let refPath := getImaReferenceFilePath env appId
    let imaRefs ← failedToRead refPath (fileReader env refPath)
    verifyImaEvents parsed.events imaRefs

end UnifiedAttestation.Ima
