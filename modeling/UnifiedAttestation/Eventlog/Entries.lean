import UnifiedAttestation.Grpc.Natives
import Mathlib.Data.List.AList

/-! The entries of a confidential-computing event log, and the registers they are
folded into.

The parser slices its input at running indices: an index outside of the bytes is a
panic, an algorithm without a declared digest size an error.
-/

set_option autoImplicit false

namespace UnifiedAttestation.Eventlog

open Wire (Bytes Outcome bail orBail orPanic)

section Names

def tcgAlgorithms : List (Nat × String) := [
  (0x1, "TPM_ALG_RSA"),
  (0x3, "TPM_ALG_TDES"),
  (0x4, "TPM_ALG_SHA1"),
  (0xB, "TPM_ALG_SHA256"),
  (0xC, "TPM_ALG_SHA384"),
  (0xD, "TPM_ALG_SHA512")]

def eventlogTypes : List (Nat × String) := [
  (0x0, "EV_PREBOOT_CERT"),
  (0x1, "EV_POST_CODE"),
  (0x2, "EV_UNUSED"),
  (0x3, "EV_NO_ACTION"),
  (0x4, "EV_SEPARATOR"),
  (0x5, "EV_ACTION"),
  (0x6, "EV_EVENT_TAG"),
  (0x7, "EV_S_CRTM_CONTENTS"),
  (0x8, "EV_S_CRTM_VERSION"),
  (0x9, "EV_CPU_MICROCODE"),
  (0xa, "EV_PLATFORM_CONFIG_FLAGS"),
  (0xb, "EV_TABLE_OF_DEVICES"),
  (0xc, "EV_COMPACT_HASH"),
  (0xd, "EV_IPL"),
  (0xe, "EV_IPL_PARTITION_DATA"),
  (0xf, "EV_NONHOST_CODE"),
  (0x10, "EV_NONHOST_CONFIG"),
  (0x11, "EV_NONHOST_INFO"),
  (0x12, "EV_OMIT_BOOT_DEVICE_EVENTS"),
  (0x80000000, "EV_EFI_EVENT_BASE"),
  (0x80000001, "EV_EFI_VARIABLE_DRIVER_CONFIG"),
  (0x80000002, "EV_EFI_VARIABLE_BOOT"),
  (0x80000003, "EV_EFI_BOOT_SERVICES_APPLICATION"),
  (0x80000004, "EV_EFI_BOOT_SERVICES_DRIVER"),
  (0x80000005, "EV_EFI_RUNTIME_SERVICES_DRIVER"),
  (0x80000006, "EV_EFI_GPT_EVENT"),
  (0x80000007, "EV_EFI_ACTION"),
  (0x80000008, "EV_EFI_PLATFORM_FIRMWARE_BLOB"),
  (0x80000009, "EV_EFI_HANDOFF_TABLES"),
  (0x8000000a, "EV_EFI_PLATFORM_FIRMWARE_BLOB2"),
  (0x8000000b, "EV_EFI_HANDOFF_TABLES2"),
  (0x800000e0, "EV_EFI_VARIABLE_AUTHORITY")]

def hexText (n : Nat) : String := String.ofList (Nat.toDigits 16 n)

def algorithmName (number : Nat) : String :=
  (tcgAlgorithms.lookup number).getD s!"UNKNOWN_ALGORITHM: {hexText number}"

def eventTypeName (number : Nat) : String :=
  (eventlogTypes.lookup number).getD s!"UNKNOWN_TYPE: {hexText number}"

end Names

structure ElDigest where
  algorithm : String
  digest : Bytes
  deriving DecidableEq, Repr

structure EventlogEntry where
  targetMeasurementRegistry : Nat
  eventTypeId : Nat
  eventType : String
  digests : List ElDigest
  eventDesc : Bytes
  deriving DecidableEq, Repr

section Parser
variable (data : Bytes)

/-- `data[start..stop]`. -/
def slice (start stop : Nat) : Outcome Bytes :=
  if start ≤ stop ∧ stop ≤ data.length then .ok ((data.drop start).take (stop - start)) else .error .panic

def littleEndian (bytes : Bytes) : Nat := bytes.foldr (fun byte acc => byte.toNat + 256 * acc) 0

/-- A little-endian number of some bytes at an index. -/
def readLe (index count : Nat) : Outcome Nat := (slice data index (index + count)).map littleEndian

/-- The digest sizes that a log declares. -/
abbrev DigestSizes := AList fun _ : Nat => Nat

def readSizes : Nat → Nat → DigestSizes → Outcome (DigestSizes × Nat)
  | 0, index, sizes => .ok (sizes, index)
  | count + 1, index, sizes => do
    let algorithm ← readLe data index 2
    let size ← readLe data (index + 2) 2
    readSizes count (index + 4) (sizes.insert algorithm size)

def readDigests (sizes : DigestSizes) : Nat → Nat → Outcome (List ElDigest × Nat)
  | 0, index => .ok ([], index)
  | count + 1, index => do
    let number ← readLe data index 2
    let size ← orBail s!"Internal Error: get digest size failed when parse eventlog entry, digest_algo_num: {number}"
      (sizes.lookup number)
    let digest ← slice data (index + 2) (index + 2 + size)
    let rest ← readDigests sizes count (index + 2 + size)
    .ok ({ algorithm := algorithmName number, digest } :: rest.1, rest.2)

/-- The entries from an index on. Every round moves the index by at least eight, so the
length of the data bounds the rounds. -/
def parseEntries : Nat → Nat → DigestSizes → Outcome (List EventlogEntry)
  | 0, _, _ => .ok []
  | rounds + 1, index, sizes =>
    if data.length ≤ index then .ok [] else do
      let stopFlag ← readLe data index 8
      let register ← readLe data index 4
      let eventTypeId ← readLe data (index + 4) 4
      let eventType := eventTypeName eventTypeId
      if eventType = "EV_NO_ACTION" then do
        let count ← readLe data (index + 8 + 48) 4
        let declared ← readSizes data count (index + 8 + 48 + 4) sizes
        let vendorSize ← readLe data declared.2 1
        parseEntries rounds (declared.2 + vendorSize + 1) declared.1
      else if stopFlag = 0xFFFFFFFFFFFFFFFF ∨ stopFlag = 0 then .ok []
      else do
        let count ← readLe data (index + 8) 4
        let digests ← readDigests data sizes count (index + 8 + 4)
        let size ← readLe data digests.2 4
        let eventDesc ← slice data (digests.2 + 4) (digests.2 + 4 + size)
        let rest ← parseEntries rounds (digests.2 + 4 + size) sizes
        .ok ({ targetMeasurementRegistry := register, eventTypeId, eventType, digests := digests.1, eventDesc } :: rest)

def tryFrom : Outcome (List EventlogEntry) := parseEntries data data.length 0 ∅

variable {data}

theorem readSizes_index {count index last : Nat} {sizes declared : DigestSizes}
    (read : readSizes data count index sizes = .ok (declared, last)) : index ≤ last := by
  induction count generalizing index sizes with
  | zero =>
    cases read
    exact Nat.le_refl _
  | succ count ih =>
    simp only [readSizes, Wire.bind_eq_ok] at read
    obtain ⟨_, _, _, _, rest⟩ := read
    exact Nat.le_trans (Nat.le_add_right index 4) (ih rest)

theorem readDigests_index {sizes : DigestSizes} {count index last : Nat} {digests : List ElDigest}
    (read : readDigests data sizes count index = .ok (digests, last)) : index ≤ last := by
  induction count generalizing index digests with
  | zero =>
    cases read
    exact Nat.le_refl _
  | succ count ih =>
    simp only [readDigests, Wire.bind_eq_ok] at read
    obtain ⟨_, _, size, _, _, _, ⟨rest, end_⟩, others, same⟩ := read
    cases same
    have later := ih others
    omega

/-- Every round takes eight bytes or more, so more rounds than that give nothing new. -/
theorem parseEntries_rounds {rounds index : Nat} (sizes : DigestSizes) (enough : data.length ≤ index + 8 * rounds) :
    parseEntries data (rounds + 1) index sizes = parseEntries data rounds index sizes := by
  induction rounds generalizing index sizes with
  | zero =>
    have ended : data.length ≤ index := enough
    exact if_pos ended
  | succ rounds ih =>
    rw [parseEntries, parseEntries]
    by_cases ended : data.length ≤ index
    · rw [if_pos ended, if_pos ended]
    rw [if_neg ended, if_neg ended]
    refine Wire.bind_congr_ok fun stopFlag _ => Wire.bind_congr_ok fun register _ =>
      Wire.bind_congr_ok fun eventTypeId _ => ?_
    -- both branches that go on start the next round behind the bytes of this one
    by_cases noAction : eventTypeName eventTypeId = "EV_NO_ACTION"
    · rw [if_pos noAction, if_pos noAction]
      refine Wire.bind_congr_ok fun count _ => Wire.bind_congr_ok fun declared read =>
        Wire.bind_congr_ok fun vendorSize _ => ih _ ?_
      have further := readSizes_index read
      omega
    rw [if_neg noAction, if_neg noAction]
    by_cases stop : stopFlag = 0xFFFFFFFFFFFFFFFF ∨ stopFlag = 0
    · rw [if_pos stop, if_pos stop]
    rw [if_neg stop, if_neg stop]
    refine Wire.bind_congr_ok fun count _ => Wire.bind_congr_ok fun digests read =>
      Wire.bind_congr_ok fun size _ => Wire.bind_congr_ok fun eventDesc _ => ?_
    have further := readDigests_index read
    rw [ih sizes (by omega)]

end Parser

section Replay
variable (sha256 : Bytes → Bytes)

/-- The log entries of each register, in log order. -/
def groupByRegister (log : List EventlogEntry) : AList fun _ : Nat => List EventlogEntry :=
  log.foldl (fun groups entry =>
    groups.insert entry.targetMeasurementRegistry
      ((groups.lookup entry.targetMeasurementRegistry).getD [] ++ [entry])) ∅

/-- One register after its entries: each first digest is hashed into it. -/
def extendAll : Bytes → List EventlogEntry → Outcome Bytes
  | value, [] => .ok value
  | value, entry :: rest => do
    let digest ← orPanic entry.digests.head?
    extendAll (sha256 (value ++ digest.digest)) rest

def rtmrLengthByBytes : Nat := 32

def replayMeasurementRegistry (log : List EventlogEntry) : Outcome (List (Nat × Bytes)) :=
  (groupByRegister log).entries.mapM fun group => do
    let value ← extendAll sha256 (List.replicate rtmrLengthByBytes 0) group.2
    .ok (group.1, value)

end Replay

section Facts
variable {sha256 : Bytes → Bytes}

/-- The entries of a log that were extended into a register. -/
def inRegister (register : Nat) (log : List EventlogEntry) : List EventlogEntry :=
  log.filter fun entry => entry.targetMeasurementRegistry = register

theorem inRegister_concat (register : Nat) (log : List EventlogEntry) (entry : EventlogEntry) :
    inRegister register (log ++ [entry]) =
      if entry.targetMeasurementRegistry = register then inRegister register log ++ [entry]
      else inRegister register log := by
  by_cases here : entry.targetMeasurementRegistry = register <;> simp [inRegister, List.filter_append, here]

theorem groupByRegister_lookup (log : List EventlogEntry) (register : Nat) :
    (groupByRegister log).lookup register =
      if inRegister register log = [] then none else some (inRegister register log) := by
  induction log using List.reverseRecOn with
  | nil => rfl
  | append_singleton log entry ih =>
    have grouped : groupByRegister (log ++ [entry]) = (groupByRegister log).insert entry.targetMeasurementRegistry
        (((groupByRegister log).lookup entry.targetMeasurementRegistry).getD [] ++ [entry]) := by
      simp only [groupByRegister, List.foldl_append, List.foldl_cons, List.foldl_nil]
    rw [grouped, inRegister_concat]
    by_cases here : entry.targetMeasurementRegistry = register
    · subst here
      have before : ((groupByRegister log).lookup entry.targetMeasurementRegistry).getD [] =
          inRegister entry.targetMeasurementRegistry log := by
        rw [ih]
        by_cases first : inRegister entry.targetMeasurementRegistry log = []
        · rw [if_pos first, Option.getD_none, first]
        · rw [if_neg first, Option.getD_some]
      rw [AList.lookup_insert, before, if_pos rfl, if_neg (List.append_ne_nil_of_right_ne_nil _ (by simp))]
    · rw [AList.lookup_insert_ne (Ne.symm here), ih, if_neg here]

/-- The value of a register after entries that all have a digest. -/
def chain (sha256 : Bytes → Bytes) (entries : List EventlogEntry) : Bytes :=
  entries.foldl (fun value entry => sha256 (value ++ (entry.digests.head?.map ElDigest.digest).getD []))
    (List.replicate rtmrLengthByBytes 0)

theorem extendAll_eq {entries : List EventlogEntry} (digested : ∀ entry ∈ entries, entry.digests ≠ [])
    (value : Bytes) :
    extendAll sha256 value entries = .ok (entries.foldl
      (fun value entry => sha256 (value ++ (entry.digests.head?.map ElDigest.digest).getD [])) value) := by
  induction entries generalizing value with
  | nil => rfl
  | cons entry rest ih =>
    obtain ⟨first, others, shape⟩ := List.exists_cons_of_ne_nil (digested entry (List.mem_cons_self ..))
    have later : ∀ entry ∈ rest, entry.digests ≠ [] := fun entry held => digested entry (List.mem_cons_of_mem _ held)
    simp only [extendAll, shape, List.head?_cons, orPanic, List.foldl_cons, Option.map_some, Option.getD_some]
    exact ih later _

theorem lookup_map_entries {β γ : Type} (f : β → γ) (entries : List (Sigma fun _ : Nat => β)) (key : Nat) :
    (entries.map fun entry => (entry.1, f entry.2)).lookup key = (entries.dlookup key).map f := by
  induction entries with
  | nil => rfl
  | cons entry rest ih =>
    by_cases here : key = entry.1
    · obtain ⟨own, value⟩ := entry
      cases here
      rw [List.map_cons, List.lookup_cons_self, List.dlookup_cons_eq, Option.map_some]
    · rw [List.map_cons, List.lookup_cons, List.dlookup_cons_ne _ _ here, beq_false_of_ne here]
      exact ih

/-- Replaying entries that all have a digest folds each register that occurs. -/
theorem replayMeasurementRegistry_eq {log : List EventlogEntry} (digested : ∀ entry ∈ log, entry.digests ≠ []) :
    ∃ replayed, replayMeasurementRegistry sha256 log = .ok replayed ∧ ∀ register, replayed.lookup register =
      if inRegister register log = [] then none else some (chain sha256 (inRegister register log)) := by
  have each : ∀ group ∈ (groupByRegister log).entries, (do
      let value ← extendAll sha256 (List.replicate rtmrLengthByBytes 0) group.2
      .ok (group.1, value) : Outcome (Nat × Bytes)) = .ok (group.1, chain sha256 group.2) := by
    rintro ⟨register, entries⟩ held
    have found : (groupByRegister log).lookup register = some entries := AList.mem_lookup_iff.mpr held
    rw [groupByRegister_lookup] at found
    by_cases none : inRegister register log = []
    · rw [if_pos none] at found
      cases found
    · rw [if_neg none] at found
      have member : ∀ entry ∈ entries, entry.digests ≠ [] := by
        intro entry there
        rw [← Option.some.inj found] at there
        exact digested entry (List.mem_filter.mp there).1
      rw [extendAll_eq member]
      rfl
  refine ⟨_, Wire.mapM_ok each, fun register => ?_⟩
  have grouped := groupByRegister_lookup log register
  rw [AList.lookup] at grouped
  rw [lookup_map_entries, grouped]
  by_cases none : inRegister register log = []
  · rw [if_pos none, if_pos none, Option.map_none]
  · rw [if_neg none, if_neg none, Option.map_some]

end Facts

end UnifiedAttestation.Eventlog
