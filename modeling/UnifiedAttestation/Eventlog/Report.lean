import UnifiedAttestation.Eventlog.Entries
import Mathlib.Data.List.Infix

/-! The firmware report of a VirtCCA event log.

Three registers of the replayed log are compared with the measured values; the report
is then taken from the whole log, first match first, and stops once all of its parts
have been found.
-/

set_option autoImplicit false

namespace UnifiedAttestation.Eventlog

open Wire (Bytes Outcome bail context)
open Grpc (hexEncode)

section Verifier

/-- What the verifier uses of its surroundings and its build. -/
structure Env where
  sha256 : Bytes → Bytes
  readLines : String → Outcome (List String)
  noAs : Bool
  overflowChecks : Bool

def eventReferenceFile (noAs : Bool) : String :=
  if noAs then "/etc/attestation/attestation-agent/local_verifier/virtcca/event/digest_list_file"
  else "/etc/attestation/attestation-service/verifier/virtcca/event/digest_list_file"

/-- Unicode white space. -/
def isWhitespace (char : Char) : Bool :=
  let n := char.toNat
  9 ≤ n && n ≤ 13 || n == 0x20 || n == 0x85 || n == 0xA0 || n == 0x1680 || 0x2000 ≤ n && n ≤ 0x200A ||
    n == 0x2028 || n == 0x2029 || n == 0x202F || n == 0x205F || n == 0x3000

def trimEnd (text : String) : String := String.ofList (text.toList.reverse.dropWhile isWhitespace).reverse

def fileReader (env : Env) (path : String) : Outcome (List String) :=
  (env.readLines path).map fun lines => lines.map trimEnd

/-- The values of the four registers of a token. -/
abbrev Rems := Fin 4 → Bytes

instance Rems.count_neZero : NeZero 4 := ⟨by decide⟩

/-- Register `i` of the log against value `i - 1` of the token, for 1, 2 and 3. -/
def compareRtmrWithEventLog (replayed : List (Nat × Bytes)) (eventLogHash : Rems) : Bool :=
  ([(1, 0), (2, 1), (3, 2)] : List (Nat × Fin 4)).all fun (register, index) =>
    match replayed.lookup register with
    | none => false
    | some value =>
      value.length == 32 && (eventLogHash index).length == 32 && value == eventLogHash index

inductive FirmwareKey where
  | grubCfg | kernel | initramfs
  deriving DecidableEq, Repr

def FirmwareKey.all : List FirmwareKey := [.grubCfg, .kernel, .initramfs]

def FirmwareKey.name : FirmwareKey → String
  | .grubCfg => "grub_cfg"
  | .kernel => "kernel"
  | .initramfs => "initramfs"

def FirmwareKey.pattern : FirmwareKey → String
  | .grubCfg => "grub.cfg"
  | .kernel => "/vmlinuz-"
  | .initramfs => "/initramfs-"

structure FirmwareState where
  grubImageCount : Nat
  grubImageList : List String
  stateHash : FirmwareKey → Option String

def FirmwareState.empty : FirmwareState := ⟨0, [], fun _ => none⟩

def grubEventType : String := "EV_EFI_BOOT_SERVICES_APPLICATION"

/-- The first digest of an entry, unless it is empty. -/
def firstDigest (entry : EventlogEntry) : Option Bytes :=
  (entry.digests.head?.map ElDigest.digest).filter fun digest => digest ≠ []

def containsText (text pattern : String) : Bool := decide (pattern.toList <:+: text.toList)

/-- `n += 1` on a `u8`. -/
def incrementU8 (overflowChecks : Bool) (n : Nat) : Outcome Nat :=
  if n + 1 < 256 then .ok (n + 1) else if overflowChecks then .error .panic else .ok 0

/-- Take the digest of an entry under a key that has none yet. -/
def noteKey (entry : EventlogEntry) (eventDesc : String) (state : FirmwareState) (key : FirmwareKey) :
    FirmwareState :=
  if (state.stateHash key).isSome then state
  else if containsText eventDesc key.pattern then
    match firstDigest entry with
    | none => state
    | some digest => { state with stateHash := Function.update state.stateHash key (some (hexEncode digest)) }
  else state

def firmwareLoop (overflowChecks : Bool) : List EventlogEntry → FirmwareState → Outcome FirmwareState
  | [], state => .ok state
  | entry :: rest, state =>
    if entry.eventType = grubEventType then
      match firstDigest entry with
      | none => firmwareLoop overflowChecks rest state
      | some digest => do
        let count ← incrementU8 overflowChecks state.grubImageCount
        firmwareLoop overflowChecks rest { state with
          grubImageCount := count
          grubImageList := state.grubImageList ++ [hexEncode digest] }
    else
      match Wire.fromUtf8 entry.eventDesc with
      | none => firmwareLoop overflowChecks rest state
      | some eventDesc =>
        if containsText eventDesc "grub_cmd:" then firmwareLoop overflowChecks rest state
        else
          let state := FirmwareKey.all.foldl (noteKey entry eventDesc) state
          if FirmwareKey.all.all fun key => (state.stateHash key).isSome then .ok state
          else firmwareLoop overflowChecks rest state

def firmwareLogState (overflowChecks : Bool) (log : List EventlogEntry) : Outcome FirmwareState :=
  firmwareLoop overflowChecks log .empty

def validateFrom : Nat → List EventlogEntry → Outcome Unit
  | _, [] => .ok ()
  | index, entry :: rest =>
    match entry.digests.head? with
    | some digest =>
      if digest.digest = [] then bail s!"EVENT log entry {index} has an empty digest" else validateFrom (index + 1) rest
    | none => bail s!"EVENT log entry {index} has no digest"

def validateEventLogDigests (log : List EventlogEntry) : Outcome Unit := validateFrom 0 log

/-- A JSON object of truth values. -/
abbrev Detail := String → Option Bool

def imageKey (index : Nat) : String := "Image[" ++ toString index ++ "]"

/-- Whether a digest is a reference value. -/
def verdict (eventRefs : List String) (digest : String) : Bool := decide (digest ∈ eventRefs)

def checkEventReferences (state : FirmwareState) (eventRefs : List String) : Detail :=
  let images : Detail := state.grubImageList.zipIdx.foldl
    (fun detail image => Function.update detail (imageKey image.2) (some (verdict eventRefs image.1))) fun _ => none
  FirmwareKey.all.foldl (fun detail key =>
    match state.stateHash key with
    | some value => Function.update detail key.name (some (verdict eventRefs value))
    | none => detail) images

/-- `event_verify` of a log that has been parsed. -/
def verifyParsed (env : Env) (log : List EventlogEntry) (eventLogHash : Rems) : Outcome Detail := do
  validateEventLogDigests log
  let replayed ← replayMeasurementRegistry env.sha256 log
  Wire.ensure (compareRtmrWithEventLog replayed eventLogHash = true) (.error ["event log hash verify failed"])
  let eventRefs ← context s!"failed to read VirtCCA event reference {eventReferenceFile env.noAs}"
    (fileReader env (eventReferenceFile env.noAs))
  let state ← firmwareLogState env.overflowChecks log
  .ok (checkEventReferences state eventRefs)

def eventVerify (env : Env) (eventLog : Bytes) (eventLogHash : Rems) : Outcome Detail :=
  if eventLog = [] then .ok fun _ => none
  else do
    let log ← context "failed to parse EVENT log" (tryFrom eventLog)
    verifyParsed env log eventLogHash

end Verifier

section Loop

def isImage (entry : EventlogEntry) : Bool := entry.eventType == grubEventType

/-- The entry is one of those that tell the digest of a key. -/
def reports (key : FirmwareKey) (entry : EventlogEntry) : Bool :=
  !isImage entry && match Wire.fromUtf8 entry.eventDesc with
    | none => false
    | some eventDesc => !containsText eventDesc "grub_cmd:" && containsText eventDesc key.pattern

/-- All keys are told of. -/
def complete (entries : List EventlogEntry) : Bool :=
  FirmwareKey.all.all fun key => entries.any (reports key)

/-- The shortest front part that is complete, or else everything. -/
def scannedFrom (front rest : List EventlogEntry) : List EventlogEntry :=
  ((rest.inits.map fun more => front ++ more).find? complete).getD (front ++ rest)

def scanned (log : List EventlogEntry) : List EventlogEntry := scannedFrom [] log

def digestHex (entry : EventlogEntry) : String := hexEncode ((firstDigest entry).getD [])

/-- The state after some entries that did not end the loop before the last of them. -/
def stateOf (entries : List EventlogEntry) : FirmwareState where
  grubImageCount := (entries.filter isImage).length % 256
  grubImageList := (entries.filter isImage).map digestHex
  stateHash key := (entries.find? (reports key)).map digestHex

theorem FirmwareState.ext_iff' {state state' : FirmwareState} :
    state = state' ↔ state.grubImageCount = state'.grubImageCount ∧ state.grubImageList = state'.grubImageList ∧
      ∀ key, state.stateHash key = state'.stateHash key := by
  cases state
  cases state'
  simp [funext_iff]

theorem scannedFrom_complete {front : List EventlogEntry} (done : complete front = true) (rest : List EventlogEntry) :
    scannedFrom front rest = front := by
  cases rest <;> simp [scannedFrom, done]

theorem scannedFrom_nil {front : List EventlogEntry} (undone : complete front = false) :
    scannedFrom front [] = front := by
  simp [scannedFrom, undone]

theorem scannedFrom_cons {front : List EventlogEntry} (undone : complete front = false) (entry : EventlogEntry)
    (rest : List EventlogEntry) : scannedFrom front (entry :: rest) = scannedFrom (front ++ [entry]) rest := by
  simp [scannedFrom, undone, Function.comp_def]

theorem prefix_scannedFrom (front rest : List EventlogEntry) : front <+: scannedFrom front rest := by
  rw [scannedFrom]
  cases found : (rest.inits.map fun more => front ++ more).find? complete with
  | none => exact List.prefix_append front rest
  | some entries =>
    obtain ⟨more, _, same⟩ := List.mem_map.mp (List.mem_of_find?_eq_some found)
    exact ⟨more, same⟩

theorem validateFrom_eq_ok {index : Nat} {log : List EventlogEntry} :
    validateFrom index log = .ok () ↔ ∀ entry ∈ log, (firstDigest entry).isSome = true := by
  induction log generalizing index with
  | nil => simp [validateFrom]
  | cons entry rest ih =>
    rw [List.forall_mem_cons, ← @ih (index + 1)]
    cases first : entry.digests.head? with
    | none => simp [validateFrom, firstDigest, first, bail]
    | some digest =>
      by_cases empty : digest.digest = []
      · simp [validateFrom, firstDigest, first, empty, bail, Option.filter]
      · simp [validateFrom, firstDigest, first, empty, Option.filter]

theorem reports_image {entry : EventlogEntry} (image : isImage entry = true) (key : FirmwareKey) :
    reports key entry = false := by
  simp [reports, image]

theorem complete_iff {entries : List EventlogEntry} :
    complete entries = FirmwareKey.all.all fun key => ((stateOf entries).stateHash key).isSome := by
  have each : ∀ key, entries.any (reports key) = ((stateOf entries).stateHash key).isSome := by
    intro key
    rw [stateOf, Option.isSome_map, Bool.eq_iff_iff, List.any_eq_true, List.find?_isSome]
  simp only [complete, each]

/-- An entry that is no image and reports nothing changes nothing. -/
theorem stateOf_silent {front : List EventlogEntry} {entry : EventlogEntry} (other : isImage entry = false)
    (silent : ∀ key, reports key entry = false) : stateOf (front ++ [entry]) = stateOf front := by
  rw [FirmwareState.ext_iff']
  simp [stateOf, List.filter_append, List.find?_append, other, silent]

theorem stateOf_image {front : List EventlogEntry} {entry : EventlogEntry} (image : isImage entry = true) :
    stateOf (front ++ [entry]) = { stateOf front with
      grubImageCount := ((front.filter isImage).length + 1) % 256
      grubImageList := (stateOf front).grubImageList ++ [digestHex entry] } := by
  rw [FirmwareState.ext_iff']
  simp [stateOf, List.filter_append, List.find?_append, image, reports_image image]

theorem complete_silent {front : List EventlogEntry} {entry : EventlogEntry}
    (silent : ∀ key, reports key entry = false) : complete (front ++ [entry]) = complete front := by
  simp [complete, silent]

theorem noteKey_stateHash {entry : EventlogEntry} {digest : Bytes} (first : firstDigest entry = some digest)
    (eventDesc : String) (state : FirmwareState) (key other : FirmwareKey) :
    (noteKey entry eventDesc state key).stateHash other =
      if other = key then (state.stateHash key).or
        (if containsText eventDesc key.pattern then some (hexEncode digest) else none)
      else state.stateHash other := by
  by_cases same : other = key
  · subst same
    cases told : state.stateHash other with
    | some value => simp [noteKey, told]
    | none => by_cases found : containsText eventDesc other.pattern <;> simp [noteKey, told, found, first]
  · cases told : state.stateHash key with
    | some value => simp [noteKey, told, same]
    | none => by_cases found : containsText eventDesc key.pattern <;> simp [noteKey, told, found, first, same]

theorem noteKey_images (entry : EventlogEntry) (eventDesc : String) (state : FirmwareState) (key : FirmwareKey) :
    (noteKey entry eventDesc state key).grubImageCount = state.grubImageCount ∧
      (noteKey entry eventDesc state key).grubImageList = state.grubImageList := by
  simp only [noteKey]
  split
  · exact ⟨rfl, rfl⟩
  split
  · cases firstDigest entry <;> exact ⟨rfl, rfl⟩
  · exact ⟨rfl, rfl⟩

/-- An entry that is looked through for the keys. -/
theorem stateOf_noted {front : List EventlogEntry} {entry : EventlogEntry} {eventDesc : String}
    (other : isImage entry = false) (digested : (firstDigest entry).isSome = true)
    (text : Wire.fromUtf8 entry.eventDesc = some eventDesc) (listed : containsText eventDesc "grub_cmd:" = false) :
    FirmwareKey.all.foldl (noteKey entry eventDesc) (stateOf front) = stateOf (front ++ [entry]) := by
  obtain ⟨digest, first⟩ := Option.isSome_iff_exists.mp digested
  have told : ∀ key, reports key entry = containsText eventDesc key.pattern := by
    intro key
    simp [reports, other, text, listed]
  rw [FirmwareState.ext_iff']
  refine ⟨?_, ?_, fun key => ?_⟩
  · simp [FirmwareKey.all, noteKey_images, stateOf, List.filter_append, other]
  · simp [FirmwareKey.all, noteKey_images, stateOf, List.filter_append, other]
  · have here : (stateOf (front ++ [entry])).stateHash key = ((stateOf front).stateHash key).or
        (if containsText eventDesc key.pattern then some (hexEncode digest) else none) := by
      simp only [stateOf, List.find?_append, Option.map_or, List.find?_cons, List.find?_nil, told]
      cases containsText eventDesc key.pattern <;> simp [digestHex, first]
    rw [here]
    cases key <;> simp [FirmwareKey.all, noteKey_stateHash first]

theorem incrementU8_eq {overflowChecks : Bool} {n : Nat} (counted : overflowChecks = true → n ≤ 255) :
    incrementU8 overflowChecks (n % 256) =
      if overflowChecks = true ∧ 255 < n + 1 then .error .panic else .ok ((n + 1) % 256) := by
  cases overflowChecks with
  | false =>
    by_cases last : n % 256 + 1 < 256
    · simp [incrementU8, last]
      omega
    · simp [incrementU8, last]
      omega
  | true =>
    have small := counted rfl
    by_cases last : n + 1 < 256
    · have wraps : n % 256 = n := by omega
      have stays : (n + 1) % 256 = n + 1 := by omega
      rw [incrementU8, wraps, stays, if_pos last, if_neg]
      rintro ⟨_, more⟩
      omega
    · have wraps : n % 256 = n := by omega
      have full : 255 < n + 1 := by omega
      simp [incrementU8, wraps, last, full]

/-- The loop reads up to the entry that completes the keys; with overflow checks the
256th image on the way is a panic. -/
theorem firmwareLoop_eq {overflowChecks : Bool} {front rest : List EventlogEntry}
    (digested : ∀ entry ∈ rest, (firstDigest entry).isSome = true) (undone : complete front = false)
    (counted : overflowChecks = true → (front.filter isImage).length ≤ 255) :
    firmwareLoop overflowChecks rest (stateOf front) =
      if overflowChecks = true ∧ 255 < ((scannedFrom front rest).filter isImage).length then .error .panic
      else .ok (stateOf (scannedFrom front rest)) := by
  induction rest generalizing front with
  | nil =>
    rw [scannedFrom_nil undone, if_neg (fun full => Nat.not_lt.mpr (counted full.1) full.2)]
    rfl
  | cons entry rest ih =>
    obtain ⟨here, later⟩ := List.forall_mem_cons.mp digested
    rw [scannedFrom_cons undone]
    -- An image is counted and tells no file; any other entry leaves the images alone.
    by_cases image : isImage entry = true
    · have kind : entry.eventType = grubEventType := by simpa [isImage] using image
      obtain ⟨digest, first⟩ := Option.isSome_iff_exists.mp here
      have grown : ((front ++ [entry]).filter isImage).length = (front.filter isImage).length + 1 := by
        simp [List.filter_append, image]
      have silent := reports_image image
      simp only [firmwareLoop, kind, if_true, first]
      rw [show (stateOf front).grubImageCount = (front.filter isImage).length % 256 from rfl, incrementU8_eq counted]
      by_cases full : overflowChecks = true ∧ 255 < (front.filter isImage).length + 1
      · -- everything scanned from here on contains these images
        have more : ((front ++ [entry]).filter isImage).length ≤
            ((scannedFrom (front ++ [entry]) rest).filter isImage).length :=
          ((prefix_scannedFrom (front ++ [entry]) rest).filter isImage).length_le
        rw [if_pos full, if_pos ⟨full.1, by omega⟩]
        rfl
      · have state : stateOf (front ++ [entry]) = { stateOf front with
            grubImageCount := ((front.filter isImage).length + 1) % 256
            grubImageList := (stateOf front).grubImageList ++ [hexEncode digest] } := by
          rw [stateOf_image image, digestHex, first, Option.getD_some]
        rw [if_neg full, Wire.ok_bind, ← state]
        apply ih later
        · rw [complete_silent silent, undone]
        · intro checks
          rw [grown]
          by_contra more
          exact full ⟨checks, by omega⟩
    · have other : isImage entry = false := by simpa using image
      have kind : entry.eventType ≠ grubEventType := by simpa [isImage] using other
      have same : ((front ++ [entry]).filter isImage).length = (front.filter isImage).length := by
        simp [List.filter_append, other]
      simp only [firmwareLoop, kind, if_false]
      cases text : Wire.fromUtf8 entry.eventDesc with
      | none =>
        have silent : ∀ key, reports key entry = false := fun key => by simp [reports, text]
        rw [← stateOf_silent other silent]
        exact ih later (by rw [complete_silent silent, undone]) (same ▸ counted)
      | some eventDesc =>
        by_cases excluded : containsText eventDesc "grub_cmd:" = true
        · have silent : ∀ key, reports key entry = false := fun key => by simp [reports, text, excluded]
          simp only [excluded, if_true]
          rw [← stateOf_silent other silent]
          exact ih later (by rw [complete_silent silent, undone]) (same ▸ counted)
        · have listed : containsText eventDesc "grub_cmd:" = false := by simpa using excluded
          simp only [listed, Bool.false_eq_true, if_false, stateOf_noted other here text listed, ← complete_iff]
          -- The loop breaks once all keys are told, so no later entry is read.
          by_cases done : complete (front ++ [entry]) = true
          · rw [if_pos done, scannedFrom_complete done, if_neg]
            rintro ⟨checks, full⟩
            have small := counted checks
            omega
          · rw [if_neg done]
            exact ih later (by simpa using done) (same ▸ counted)

theorem firmwareLogState_eq {log : List EventlogEntry} (overflowChecks : Bool)
    (digested : ∀ entry ∈ log, (firstDigest entry).isSome = true) :
    firmwareLogState overflowChecks log =
      if overflowChecks = true ∧ 255 < ((scanned log).filter isImage).length then .error .panic
      else .ok (stateOf (scanned log)) :=
  @firmwareLoop_eq overflowChecks [] log digested rfl (fun _ => Nat.zero_le _)

end Loop

section Detail

theorem imageKey_injective {index index' : Nat} (same : imageKey index = imageKey index') : index = index' := by
  have chars := congrArg String.toList same
  simp only [imageKey, String.toList_append] at chars
  have digits := List.append_cancel_left (List.append_cancel_right chars)
  have numbers := congrArg (fun text => Nat.ofDigitChars 10 text 0) digits
  simpa [Nat.toString_eq_ofList_toDigits] using numbers

theorem imageKey_ne_name (index : Nat) (key : FirmwareKey) : imageKey index ≠ key.name := by
  intro same
  have chars := congrArg (fun text => text.toList.head?) same
  cases key <;> simp [imageKey, FirmwareKey.name, String.toList_append] at chars

theorem foldl_images (verdict : String → Bool) (images : List String) (start : Nat) (detail : Detail) (index : Nat) :
    (images.zipIdx start).foldl (fun detail image =>
        Function.update detail (imageKey image.2) (some (verdict image.1))) detail (imageKey index) =
      if start ≤ index then (images[index - start]?.map verdict).or (detail (imageKey index))
      else detail (imageKey index) := by
  induction images generalizing start detail with
  | nil => simp
  | cons image images ih =>
    rw [List.zipIdx_cons, List.foldl_cons, ih]
    rcases Nat.lt_trichotomy start index with before | same | after
    · have next : index - start = index - (start + 1) + 1 := by omega
      have other : imageKey index ≠ imageKey start := fun same => Nat.ne_of_gt before (imageKey_injective same)
      rw [if_pos (Nat.succ_le_of_lt before), if_pos (Nat.le_of_lt before), next, List.getElem?_cons_succ,
        Function.update_of_ne other]
    · subst same
      rw [if_neg (Nat.not_succ_le_self start), if_pos (Nat.le_refl start), Function.update_self, Nat.sub_self]
      rfl
    · have other : imageKey index ≠ imageKey start := fun same => Nat.ne_of_lt after (imageKey_injective same)
      rw [if_neg (by omega), if_neg (by omega), Function.update_of_ne other]

theorem foldl_images_other (verdict : String → Bool) (images : List (String × Nat)) (detail : Detail) {name : String}
    (other : ∀ index, name ≠ imageKey index) :
    images.foldl (fun detail image => Function.update detail (imageKey image.2) (some (verdict image.1))) detail name =
      detail name := by
  induction images generalizing detail with
  | nil => rfl
  | cons image images ih => rw [List.foldl_cons, ih, Function.update_of_ne (other image.2)]

theorem foldl_keys (verdict : String → Bool) (told : FirmwareKey → Option String) (detail : Detail) (name : String) :
    FirmwareKey.all.foldl (fun detail key =>
        match told key with
        | some value => Function.update detail key.name (some (verdict value))
        | none => detail) detail name =
      ((FirmwareKey.all.find? fun key => key.name = name).bind fun key => (told key).map verdict).or (detail name) := by
  have step : ∀ (detail : Detail) (key : FirmwareKey), (match told key with
      | some value => Function.update detail key.name (some (verdict value))
      | none => detail) name =
      if key.name = name then ((told key).map verdict).or (detail name) else detail name := by
    intro detail key
    by_cases here : key.name = name
    · subst here
      cases told key <;> simp
    · cases told key with
      | none => simp [here]
      | some value => simp [here, Function.update_of_ne (Ne.symm here)]
  simp only [FirmwareKey.all, List.foldl_cons, List.foldl_nil, step, List.find?_cons, List.find?_nil]
  by_cases first : FirmwareKey.grubCfg.name = name
  · subst first
    simp [FirmwareKey.name]
  by_cases second : FirmwareKey.kernel.name = name
  · subst second
    simp [FirmwareKey.name]
  by_cases third : FirmwareKey.initramfs.name = name
  · subst third
    simp [FirmwareKey.name]
  · simp [first, second, third]

variable (state : FirmwareState) (eventRefs : List String)

theorem checkEventReferences_image (index : Nat) :
    checkEventReferences state eventRefs (imageKey index) =
      state.grubImageList[index]?.map (verdict eventRefs) := by
  have noKey : (FirmwareKey.all.find? fun key => key.name = imageKey index) = none := by
    rw [List.find?_eq_none]
    intro key _ same
    exact imageKey_ne_name index key (of_decide_eq_true same).symm
  have folded := foldl_images (verdict eventRefs) state.grubImageList 0 (fun _ => none) index
  rw [if_pos (Nat.zero_le _), Nat.sub_zero, Option.or_none] at folded
  rw [checkEventReferences, foldl_keys (verdict eventRefs), noKey, Option.bind_none, Option.none_or]
  exact folded

theorem checkEventReferences_key (key : FirmwareKey) :
    checkEventReferences state eventRefs key.name = (state.stateHash key).map (verdict eventRefs) := by
  have itself : (FirmwareKey.all.find? fun other => other.name = key.name) = some key := by cases key <;> rfl
  have untold := foldl_images_other (verdict eventRefs) state.grubImageList.zipIdx (fun _ => none)
    fun index => (imageKey_ne_name index key).symm
  rw [checkEventReferences, foldl_keys (verdict eventRefs), itself, Option.bind_some]
  rw [untold, Option.or_none]

theorem checkEventReferences_other {name : String} (noImage : ∀ index, name ≠ imageKey index)
    (noKey : ∀ key : FirmwareKey, name ≠ key.name) : checkEventReferences state eventRefs name = none := by
  have unfound : (FirmwareKey.all.find? fun key => key.name = name) = none := by
    rw [List.find?_eq_none]
    intro key _ same
    exact noKey key (of_decide_eq_true same).symm
  rw [checkEventReferences, foldl_keys (verdict eventRefs), unfound, Option.bind_none, Option.none_or]
  exact foldl_images_other (verdict eventRefs) state.grubImageList.zipIdx (fun _ => none) noImage

variable {state eventRefs}

/-- Two reports are the same exactly when their images and their keys have the same verdicts. -/
theorem checkEventReferences_eq_iff {state' : FirmwareState} :
    checkEventReferences state eventRefs = checkEventReferences state' eventRefs ↔
      state.grubImageList.map (verdict eventRefs) = state'.grubImageList.map (verdict eventRefs) ∧
        ∀ key, (state.stateHash key).map (verdict eventRefs) = (state'.stateHash key).map (verdict eventRefs) := by
  constructor
  · intro same
    constructor
    · apply List.ext_getElem?
      intro index
      rw [List.getElem?_map, List.getElem?_map, ← checkEventReferences_image, ← checkEventReferences_image, same]
    · intro key
      rw [← checkEventReferences_key, ← checkEventReferences_key, same]
  · rintro ⟨images, keys⟩
    funext name
    by_cases image : ∃ index, name = imageKey index
    · obtain ⟨index, rfl⟩ := image
      rw [checkEventReferences_image, checkEventReferences_image, ← List.getElem?_map, ← List.getElem?_map, images]
    by_cases key : ∃ key : FirmwareKey, name = key.name
    · obtain ⟨key, rfl⟩ := key
      rw [checkEventReferences_key, checkEventReferences_key, keys key]
    · rw [not_exists] at image key
      rw [checkEventReferences_other state eventRefs image key, checkEventReferences_other state' eventRefs image key]

end Detail

section Measured

/-- The entries of the registers that are compared with a value of the token. -/
def measured (log : List EventlogEntry) : List EventlogEntry :=
  log.filter fun entry => entry.targetMeasurementRegistry ∈ [1, 2, 3]

/-- The images that the report lists. -/
def images (log : List EventlogEntry) : List EventlogEntry := (scanned log).filter isImage

/-- The entry that the report takes the digest of a key from. -/
def reporter (log : List EventlogEntry) (key : FirmwareKey) : Option EventlogEntry := log.find? (reports key)

theorem inRegister_measured {register : Nat} (compared : register ∈ [1, 2, 3]) (log : List EventlogEntry) :
    inRegister register (measured log) = inRegister register log := by
  rw [inRegister, measured, List.filter_filter]
  apply List.filter_congr
  intro entry _
  by_cases here : entry.targetMeasurementRegistry = register
  · simpa [here] using compared
  · simp [here]

theorem compareRtmrWithEventLog_congr {replayed replayed' : List (Nat × Bytes)} (eventLogHash : Rems)
    (same : ∀ register ∈ [1, 2, 3], replayed.lookup register = replayed'.lookup register) :
    compareRtmrWithEventLog replayed eventLogHash = compareRtmrWithEventLog replayed' eventLogHash := by
  simp only [compareRtmrWithEventLog, List.all_cons, List.all_nil, same 1 (by decide), same 2 (by decide),
    same 3 (by decide)]

theorem scanned_reporter (log : List EventlogEntry) (key : FirmwareKey) :
    (scanned log).find? (reports key) = reporter log key := by
  rw [scanned, scannedFrom, reporter]
  cases found : (log.inits.map fun more => [] ++ more).find? complete with
  | none => rfl
  | some entries =>
    obtain ⟨more, listed, same⟩ := List.mem_map.mp (List.mem_of_find?_eq_some found)
    rw [List.nil_append] at same
    subst same
    obtain ⟨rest, rfl⟩ := (List.mem_inits more log).mp listed
    have done : (more.find? (reports key)).isSome = true := by
      have all := List.find?_some found
      rw [complete, List.all_eq_true] at all
      rw [List.find?_isSome]
      exact List.any_eq_true.mp (all key (by cases key <;> decide))
    obtain ⟨entry, first⟩ := Option.isSome_iff_exists.mp done
    rw [Option.getD_some, List.find?_append, first, Option.some_or]

/-- What a verified log has passed, and what its report is. -/
theorem verifyParsed_eq_ok {env : Env} {log : List EventlogEntry} {eventLogHash : Rems} {detail : Detail} :
    verifyParsed env log eventLogHash = .ok detail ↔
      (∀ entry ∈ log, (firstDigest entry).isSome = true) ∧
      (∃ replayed, replayMeasurementRegistry env.sha256 log = .ok replayed ∧
        compareRtmrWithEventLog replayed eventLogHash = true) ∧
      ∃ eventRefs, fileReader env (eventReferenceFile env.noAs) = .ok eventRefs ∧
        ¬ (env.overflowChecks = true ∧ 255 < (images log).length) ∧
        detail = checkEventReferences (stateOf (scanned log)) eventRefs := by
  simp only [verifyParsed, validateEventLogDigests, Wire.bind_eq_ok, Wire.ensure_eq_ok, Wire.context_eq_ok]
  constructor
  · rintro ⟨_, validated, replayed, replays, _, compares, eventRefs, reads, state, looped, same⟩
    have digested := validateFrom_eq_ok.mp validated
    rw [firmwareLogState_eq env.overflowChecks digested] at looped
    refine ⟨digested, ⟨replayed, replays, compares⟩, eventRefs, reads, ?_⟩
    by_cases full : env.overflowChecks = true ∧ 255 < ((scanned log).filter isImage).length
    · rw [if_pos full] at looped
      cases looped
    · rw [if_neg full] at looped
      cases looped
      cases same
      exact ⟨full, rfl⟩
  · rintro ⟨digested, ⟨replayed, replays, compares⟩, eventRefs, reads, fits, rfl⟩
    refine ⟨(), validateFrom_eq_ok.mpr digested, replayed, replays, (), compares, eventRefs, reads,
      stateOf (scanned log), ?_, rfl⟩
    rw [firmwareLogState_eq env.overflowChecks digested]
    exact if_neg fits

theorem firstDigest_digests {entry : EventlogEntry} (digested : (firstDigest entry).isSome = true) :
    entry.digests ≠ [] := by
  intro none
  simp [firstDigest, none] at digested

/-- Without the entries of other registers the log passes the same comparison. -/
theorem measured_compares {env : Env} {log : List EventlogEntry} {eventLogHash : Rems}
    (digested : ∀ entry ∈ log, (firstDigest entry).isSome = true)
    (compares : ∃ replayed, replayMeasurementRegistry env.sha256 log = .ok replayed ∧
      compareRtmrWithEventLog replayed eventLogHash = true) :
    (∀ entry ∈ measured log, (firstDigest entry).isSome = true) ∧
      ∃ replayed, replayMeasurementRegistry env.sha256 (measured log) = .ok replayed ∧
        compareRtmrWithEventLog replayed eventLogHash = true := by
  have still : ∀ entry ∈ measured log, (firstDigest entry).isSome = true := fun entry held =>
    digested entry (List.mem_filter.mp held).1
  obtain ⟨replayed, replays, compares⟩ := compares
  obtain ⟨whole, wholeReplays, wholeAt⟩ :=
    @replayMeasurementRegistry_eq env.sha256 log fun entry held => firstDigest_digests (digested entry held)
  obtain ⟨part, partReplays, partAt⟩ :=
    @replayMeasurementRegistry_eq env.sha256 (measured log) fun entry held => firstDigest_digests (still entry held)
  cases replays.symm.trans wholeReplays
  refine ⟨still, part, partReplays, ?_⟩
  rw [← compares]
  apply compareRtmrWithEventLog_congr
  intro register compared
  rw [partAt, wholeAt, inRegister_measured compared]

/-- Of a verified log the entries of other registers count through the images and the
first reporter of each key. -/
theorem verifyParsed_measured_iff {env : Env} {log : List EventlogEntry} {eventLogHash : Rems} {detail : Detail}
    {eventRefs : List String} (verifies : verifyParsed env log eventLogHash = .ok detail)
    (reads : fileReader env (eventReferenceFile env.noAs) = .ok eventRefs) :
    verifyParsed env (measured log) eventLogHash = .ok detail ↔
      (images log).map (fun entry => verdict eventRefs (digestHex entry)) =
          (images (measured log)).map (fun entry => verdict eventRefs (digestHex entry)) ∧
        ∀ key, (reporter log key).map (fun entry => verdict eventRefs (digestHex entry)) =
          (reporter (measured log) key).map (fun entry => verdict eventRefs (digestHex entry)) := by
  obtain ⟨digested, compares, eventRefs', reads', fits, report⟩ := verifyParsed_eq_ok.mp verifies
  cases reads.symm.trans reads'
  obtain ⟨still, stillCompares⟩ := measured_compares digested compares
  have sameReport : detail = checkEventReferences (stateOf (scanned (measured log))) eventRefs ↔
      (images log).map (fun entry => verdict eventRefs (digestHex entry)) =
          (images (measured log)).map (fun entry => verdict eventRefs (digestHex entry)) ∧
        ∀ key, (reporter log key).map (fun entry => verdict eventRefs (digestHex entry)) =
          (reporter (measured log) key).map (fun entry => verdict eventRefs (digestHex entry)) := by
    rw [report, checkEventReferences_eq_iff]
    simp only [stateOf, scanned_reporter, List.map_map, Option.map_map, images, Function.comp_def]
  constructor
  · intro again
    obtain ⟨_, _, eventRefs', reads', _, report'⟩ := verifyParsed_eq_ok.mp again
    cases reads.symm.trans reads'
    exact sameReport.mp report'
  · intro same
    -- As many images are counted, so the counter does not overflow either.
    have asMany : (images log).length = (images (measured log)).length := by
      simpa using congrArg List.length same.1
    exact verifyParsed_eq_ok.mpr ⟨still, stillCompares, eventRefs, reads, asMany ▸ fits, sameReport.mpr same⟩

/-- Deleting the entries of the registers that are not compared leaves the report as it
is exactly when the images before and after have the same verdicts and so has the first
reporter of each key. -/
theorem unmeasured_entries_unreported_iff {env : Env} {eventLog : Bytes} {eventLogHash : Rems} {detail : Detail}
    (accepted : eventVerify env eventLog eventLogHash = .ok detail) :
    (eventLog = [] ∧ detail = fun _ => none) ∨
      ∃ log eventRefs, tryFrom eventLog = .ok log ∧ fileReader env (eventReferenceFile env.noAs) = .ok eventRefs ∧
        verifyParsed env log eventLogHash = .ok detail ∧
        (verifyParsed env (measured log) eventLogHash = .ok detail ↔
          (images log).map (fun entry => verdict eventRefs (digestHex entry)) =
              (images (measured log)).map (fun entry => verdict eventRefs (digestHex entry)) ∧
            ∀ key, (reporter log key).map (fun entry => verdict eventRefs (digestHex entry)) =
              (reporter (measured log) key).map (fun entry => verdict eventRefs (digestHex entry))) := by
  rw [eventVerify] at accepted
  by_cases empty : eventLog = []
  · rw [if_pos empty] at accepted
    cases accepted
    exact .inl ⟨empty, rfl⟩
  rw [if_neg empty] at accepted
  obtain ⟨log, parses, verifies⟩ := Wire.bind_eq_ok.mp accepted
  obtain ⟨_, _, eventRefs, reads, _⟩ := verifyParsed_eq_ok.mp verifies
  exact .inr ⟨log, eventRefs, Wire.context_eq_ok.mp parses, reads, verifies, verifyParsed_measured_iff verifies reads⟩

end Measured

section Silent

/-- The entry is no image and names no key. -/
def Silent (entry : EventlogEntry) : Prop := isImage entry = false ∧ ∀ key, reports key entry = false

/-- All entries of the registers that are not compared are silent. -/
def SilentElsewhere (log : List EventlogEntry) : Prop :=
  ∀ entry ∈ log, entry.targetMeasurementRegistry ∉ [1, 2, 3] → Silent entry

variable {log : List EventlogEntry}

theorem filter_measured {test : EventlogEntry → Bool}
    (silent : ∀ entry ∈ log, entry.targetMeasurementRegistry ∉ [1, 2, 3] → test entry = false) :
    (measured log).filter test = log.filter test := by
  rw [measured, List.filter_filter]
  apply List.filter_congr
  intro entry held
  by_cases compared : entry.targetMeasurementRegistry ∈ [1, 2, 3]
  · simp only [compared, decide_true, Bool.and_true]
  · simp only [silent entry held compared, Bool.false_and]

theorem reporter_measured (silent : SilentElsewhere log) (key : FirmwareKey) :
    reporter (measured log) key = reporter log key := by
  rw [reporter, reporter, ← List.head?_filter, ← List.head?_filter,
    filter_measured fun entry held other => (silent entry held other).2 key]

theorem filter_isImage_measured (silent : SilentElsewhere log) :
    (measured log).filter isImage = log.filter isImage :=
  filter_measured fun entry held other => (silent entry held other).1

theorem complete_measured (silent : SilentElsewhere log) : complete (measured log) = complete log := by
  have each : ∀ key, (measured log).any (reports key) = log.any (reports key) := by
    intro key
    have first := congrArg Option.isSome (reporter_measured silent key)
    rwa [reporter, reporter, List.isSome_find?, List.isSome_find?] at first
  simp only [complete, each]

/-- The scan stops at the same entry, and finds the same images up to it. -/
theorem images_scannedFrom_measured {front rest : List EventlogEntry} (silent : SilentElsewhere (front ++ rest)) :
    (scannedFrom (measured front) (measured rest)).filter isImage = (scannedFrom front rest).filter isImage := by
  induction rest generalizing front with
  | nil =>
    rw [List.append_nil] at silent
    by_cases done : complete front = true
    · rw [scannedFrom_complete done, scannedFrom_complete (by rw [complete_measured silent, done]),
        filter_isImage_measured silent]
    · have undone : complete front = false := by simpa using done
      have noneLeft : measured [] = [] := rfl
      rw [scannedFrom_nil undone, noneLeft, scannedFrom_nil (by rw [complete_measured silent, undone]),
        filter_isImage_measured silent]
  | cons entry rest ih =>
    have frontSilent : SilentElsewhere front := fun other held => silent other (List.mem_append_left _ held)
    by_cases done : complete front = true
    · rw [scannedFrom_complete done, scannedFrom_complete (by rw [complete_measured frontSilent, done]),
        filter_isImage_measured frontSilent]
    · have undone : complete front = false := by simpa using done
      have further := @ih (front ++ [entry]) (by rwa [List.append_assoc, List.singleton_append])
      rw [scannedFrom_cons undone, ← further]
      -- A compared entry is read by both scans, any other by the longer one alone.
      by_cases compared : entry.targetMeasurementRegistry ∈ [1, 2, 3]
      · have kept : measured (entry :: rest) = entry :: measured rest := List.filter_cons_of_pos (by simpa using compared)
        have grown : measured (front ++ [entry]) = measured front ++ [entry] := by
          rw [measured, List.filter_append, List.filter_cons_of_pos (by simpa using compared), List.filter_nil, measured]
        rw [kept, grown, scannedFrom_cons (by rw [complete_measured frontSilent, undone])]
      · have dropped : measured (entry :: rest) = measured rest := List.filter_cons_of_neg (by simpa using compared)
        have same : measured (front ++ [entry]) = measured front := by
          rw [measured, List.filter_append, List.filter_cons_of_neg (by simpa using compared), List.filter_nil,
            List.append_nil, measured]
        rw [dropped, same]

/-- Silent entries of other registers can be deleted without a trace in the report. -/
theorem verifyParsed_measured {env : Env} {eventLogHash : Rems} {detail : Detail} (silent : SilentElsewhere log)
    (verifies : verifyParsed env log eventLogHash = .ok detail) :
    verifyParsed env (measured log) eventLogHash = .ok detail := by
  obtain ⟨_, _, eventRefs, reads, _⟩ := verifyParsed_eq_ok.mp verifies
  have sameImages : images (measured log) = images log := @images_scannedFrom_measured [] log silent
  refine (verifyParsed_measured_iff verifies reads).mpr ⟨?_, fun key => ?_⟩
  · rw [sameImages]
  · rw [reporter_measured silent]

end Silent

section Unmeasured

/-- A little-endian number in four bytes. -/
def le32 (n : Nat) : Bytes := (Wire.toBeBytes 4 n).reverse

/-- The entry that declares SHA-256 digests. -/
def declaringEntry : Bytes :=
  le32 1 ++ le32 3 ++ List.replicate 48 0 ++ le32 1 ++ [0x0B, 0x00, 0x20, 0x00] ++ [0x00]

def plainEntry (register : Nat) (digest : UInt8) (eventDesc : String) : Bytes :=
  le32 register ++ le32 0x0D ++ le32 1 ++ [0x0B, 0x00] ++ List.replicate 32 digest ++
    le32 (Wire.utf8 eventDesc).length ++ Wire.utf8 eventDesc

/-- One plain entry in each compared register, and a trusted `grub.cfg` in the fifth. -/
def unmeasuredLog : Bytes :=
  declaringEntry ++ plainEntry 1 0xAA "a" ++ plainEntry 2 0xAA "b" ++ plainEntry 3 0xAA "c" ++
    plainEntry 5 0xBB "grub.cfg"

/-- SHA-256 of 32 zeros and 32 bytes `aa`. -/
def extendedOnce : Bytes :=
  [0x9e, 0xf8, 0x14, 0xb4, 0x2f, 0xa0, 0xbe, 0x12, 0xd1, 0x97, 0xc4, 0x4d, 0x3e, 0x8e, 0x03, 0x44,
    0x1a, 0x4b, 0x11, 0x18, 0x23, 0x76, 0x58, 0x36, 0x8b, 0xa1, 0x35, 0x10, 0x90, 0xe5, 0x56, 0xed]

/-- SHA-256 of 32 zeros and 32 bytes `bb`. -/
def extendedOther : Bytes :=
  [0x86, 0xbf, 0xbc, 0xe7, 0xf8, 0x8e, 0x77, 0xda, 0xb6, 0xbb, 0xfb, 0x92, 0x3b, 0xb7, 0x0e, 0x24,
    0x11, 0xd3, 0x74, 0xdc, 0x65, 0x8d, 0xb7, 0x51, 0xc9, 0xbd, 0xec, 0x43, 0x8f, 0x5c, 0xce, 0x54]

def unmeasuredEnv : Env where
  sha256 bytes :=
    if bytes = List.replicate 32 0 ++ List.replicate 32 0xAA then extendedOnce
    else if bytes = List.replicate 32 0 ++ List.replicate 32 0xBB then extendedOther
    else []
  readLines _ := .ok [hexEncode (List.replicate 32 0xBB)]
  noAs := false
  overflowChecks := false

theorem unmeasuredLog_verified :
    ∃ detail, eventVerify unmeasuredEnv unmeasuredLog (fun _ => extendedOnce) = .ok detail ∧
      detail "grub_cfg" = some true := by
  have told : (eventVerify unmeasuredEnv unmeasuredLog fun _ => extendedOnce).map (fun detail => detail "grub_cfg") =
      .ok (some true) := by
    decide +kernel
  cases verified : eventVerify unmeasuredEnv unmeasuredLog fun _ => extendedOnce with
  | error fault => simp [verified, Except.map] at told
  | ok detail => exact ⟨detail, rfl, by simpa [verified, Except.map] using told⟩

/-- The report trusts a `grub.cfg` that was extended into no compared register. -/
theorem unmeasured_digest_reported :
    ∃ log detail, eventVerify unmeasuredEnv unmeasuredLog (fun _ => extendedOnce) = .ok detail ∧
      tryFrom unmeasuredLog = .ok log ∧ detail "grub_cfg" = some true ∧
      verifyParsed unmeasuredEnv (measured log) (fun _ => extendedOnce) ≠ .ok detail := by
  obtain ⟨detail, verified, trusted⟩ := unmeasuredLog_verified
  have without : (tryFrom unmeasuredLog >>= fun log =>
      (verifyParsed unmeasuredEnv (measured log) fun _ => extendedOnce).map fun detail => detail "grub_cfg") =
      .ok none := by
    decide +kernel
  obtain ⟨log, parses, told⟩ := Wire.bind_eq_ok.mp without
  refine ⟨log, detail, verified, parses, trusted, fun same => ?_⟩
  simp [same, Except.map, trusted] at told

theorem unmeasured_entries_unreported_iff_grub :
    ∃ detail, (unmeasuredLog = [] ∧ detail = fun _ => none) ∨
      ∃ log eventRefs, tryFrom unmeasuredLog = .ok log ∧
        fileReader unmeasuredEnv (eventReferenceFile unmeasuredEnv.noAs) = .ok eventRefs ∧
        verifyParsed unmeasuredEnv log (fun _ => extendedOnce) = .ok detail ∧
        (verifyParsed unmeasuredEnv (measured log) (fun _ => extendedOnce) = .ok detail ↔
          (images log).map (fun entry => verdict eventRefs (digestHex entry)) =
              (images (measured log)).map (fun entry => verdict eventRefs (digestHex entry)) ∧
            ∀ key, (reporter log key).map (fun entry => verdict eventRefs (digestHex entry)) =
              (reporter (measured log) key).map (fun entry => verdict eventRefs (digestHex entry))) := by
  obtain ⟨detail, verified, _⟩ := unmeasuredLog_verified
  exact ⟨detail, unmeasured_entries_unreported_iff verified⟩

end Unmeasured

end UnifiedAttestation.Eventlog
