import UnifiedAttestation.Ima.Events
import UnifiedAttestation.Runs.Machines

/-! Which events decide what is reported of a file.

The report has one slot for each name and is filled in log order, over all registers.
So the last event of a name decides alone, whatever came before it and whatever
register it went to.
-/

set_option autoImplicit false

namespace UnifiedAttestation.Ima

open Wire (Bytes Outcome bail ensure orPanic)
open Grpc (hexEncode)
open Eventlog (Detail Rems)

section Verdicts

def Event.isImaNg (event : Event) : Bool :=
  match event.data with
  | .imaNg _ _ => true
  | .other _ => false

/-- The event measures the file of a name. -/
def Event.isFor (name : String) (event : Event) : Bool :=
  match event.data with
  | .imaNg _ other => decide (other = name)
  | .other _ => false

/-- The digest of the event is a reference value. -/
def Event.trusted (imaRefs : List String) (event : Event) : Bool :=
  match event.data with
  | .imaNg digest _ => decide (hexEncode digest ∈ imaRefs)
  | .other _ => false

/-- The verdict of the last event of a name. -/
def lastVerdict (imaRefs : List String) (events : List Event) (name : String) : Option Bool :=
  (events.filter (Event.isFor name)).getLast?.map (Event.trusted imaRefs)

variable {imaRefs : List String} {events : List Event} {detail : Detail} {name : String}

/-- The detail after an event of the form `ima-ng`. -/
def noted (imaRefs : List String) (before : Detail) (event : Event) : Detail := fun name =>
  if event.isFor name = true ∧ name ≠ "boot_aggregate" then some (event.trusted imaRefs) else before name

theorem noteEvent_eq_ok {event : Event} {before : Detail} :
    noteEvent imaRefs before event = .ok detail ↔ event.isImaNg = true ∧ detail = noted imaRefs before event := by
  cases form : event.data with
  | other shown => simp [noteEvent, form, Event.isImaNg, bail]
  | imaNg digest own =>
    have named : Event.isImaNg event = true := by simp [Event.isImaNg, form]
    by_cases boot : own = "boot_aggregate"
    · have unchanged : noted imaRefs before event = before := by
        funext name
        have none : ¬ (event.isFor name = true ∧ name ≠ "boot_aggregate") := by
          simp only [Event.isFor, form, decide_eq_true_eq]
          rintro ⟨rfl, other⟩
          exact other boot
        rw [noted, if_neg none]
      simp only [noteEvent, form, if_pos boot, named, unchanged, Except.ok.injEq, true_and, eq_comm]
    · have updated : noted imaRefs before event =
          Function.update before own (some (decide (hexEncode digest ∈ imaRefs))) := by
        funext name
        simp only [noted, Event.isFor, Event.trusted, form, decide_eq_true_eq, Function.update_apply]
        by_cases here : name = own
        · subst here
          simp [boot]
        · simp [here, Ne.symm here]
      simp only [noteEvent, form, if_neg boot, named, updated, Except.ok.injEq, true_and, eq_comm]

theorem lastVerdict_cons (imaRefs : List String) (event : Event) (events : List Event) (name : String) :
    lastVerdict imaRefs (event :: events) name =
      (lastVerdict imaRefs events name).or (if event.isFor name then some (event.trusted imaRefs) else none) := by
  by_cases here : event.isFor name = true
  · rw [lastVerdict, lastVerdict, List.filter_cons_of_pos here, List.getLast?_cons, if_pos here]
    cases (events.filter (Event.isFor name)).getLast? <;> rfl
  · rw [lastVerdict, lastVerdict, List.filter_cons_of_neg here, if_neg here, Option.or_none]

/-- The events are noted exactly when all are of the form `ima-ng`, and each name is left
with the verdict of its last event. -/
theorem noteEvents_eq_ok {before : Detail} :
    events.foldlM (noteEvent imaRefs) before = .ok detail ↔ (∀ event ∈ events, event.isImaNg = true) ∧
      detail = fun name => if name = "boot_aggregate" then before name
        else (lastVerdict imaRefs events name).or (before name) := by
  induction events generalizing before with
  | nil =>
    have unchanged : (fun name => if name = "boot_aggregate" then before name
        else (lastVerdict imaRefs [] name).or (before name)) = before := by
      funext name
      exact ite_self (before name)
    rw [unchanged, List.foldlM_nil]
    constructor
    · intro same
      exact ⟨fun _ held => absurd held List.not_mem_nil, (Except.ok.inj same).symm⟩
    · rintro ⟨_, rfl⟩
      rfl
  | cons event events ih =>
    -- A later verdict replaces that of the first event, which replaces what was there before.
    have steps : (fun name => if name = "boot_aggregate" then noted imaRefs before event name
        else (lastVerdict imaRefs events name).or (noted imaRefs before event name)) = fun name =>
          if name = "boot_aggregate" then before name
          else (lastVerdict imaRefs (event :: events) name).or (before name) := by
      funext name
      by_cases boot : name = "boot_aggregate"
      · simp [boot, noted]
      · rw [if_neg boot, if_neg boot, lastVerdict_cons, Option.or_assoc, noted]
        by_cases here : event.isFor name = true
        · simp [here, boot]
        · simp [here]
    simp only [List.foldlM_cons, Wire.bind_eq_ok, noteEvent_eq_ok, ih, List.forall_mem_cons]
    constructor
    · rintro ⟨_, ⟨form, rfl⟩, forms, rfl⟩
      exact ⟨⟨form, forms⟩, steps⟩
    · rintro ⟨⟨form, forms⟩, rfl⟩
      exact ⟨_, ⟨form, rfl⟩, forms, steps.symm⟩

theorem verifyImaEvents_eq_ok :
    verifyImaEvents events imaRefs = .ok detail ↔ 2 ≤ events.length ∧ (∀ event ∈ events, event.isImaNg = true) ∧
      detail = fun name => if name = "boot_aggregate" then none else lastVerdict imaRefs events name := by
  simp only [verifyImaEvents, Wire.bind_eq_ok, Wire.ensure_eq_ok, noteEvents_eq_ok, Option.or_none]
  constructor
  · rintro ⟨_, many, rest⟩
    refine ⟨many, rest.1, ?_⟩
    rw [rest.2]
  · rintro ⟨many, rest⟩
    exact ⟨(), many, rest⟩

/-- The last event of a name is trusted, and an earlier one is not. -/
def Relabelled (imaRefs : List String) (events : List Event) (name : String) : Prop :=
  ∃ front last back, events = front ++ last :: back ∧ last.isFor name = true ∧ last.trusted imaRefs = true ∧
    (∀ event ∈ back, event.isFor name = false) ∧
    ∃ earlier ∈ front, earlier.isFor name = true ∧ earlier.trusted imaRefs = false

/-- The events of a name, the last one set apart. -/
theorem exists_last (occurs : ∃ event ∈ events, event.isFor name = true) :
    ∃ front last back, events = front ++ last :: back ∧ last.isFor name = true ∧
      ∀ event ∈ back, event.isFor name = false := by
  induction events with
  | nil =>
    obtain ⟨_, held, _⟩ := occurs
    cases held
  | cons event events ih =>
    by_cases later : ∃ event ∈ events, event.isFor name = true
    · obtain ⟨front, last, back, rfl, here, after⟩ := ih later
      exact ⟨event :: front, last, back, rfl, here, after⟩
    · obtain ⟨first, held, here⟩ := occurs
      rcases List.mem_cons.mp held with rfl | held
      · refine ⟨[], first, events, rfl, here, fun other held => ?_⟩
        by_contra also
        exact later ⟨other, held, by simpa using also⟩
      · exact absurd ⟨first, held, here⟩ later

theorem lastVerdict_eq {front back : List Event} {last : Event} (here : last.isFor name = true)
    (after : ∀ event ∈ back, event.isFor name = false) :
    lastVerdict imaRefs (front ++ last :: back) name = some (last.trusted imaRefs) := by
  have none : back.filter (Event.isFor name) = [] := by
    rw [List.filter_eq_nil_iff]
    intro event held
    simp [after event held]
  rw [lastVerdict, List.filter_append, List.filter_cons_of_pos here, none, List.getLast?_concat]
  rfl

/-- A file is reported as trusted exactly when all of its measurements are, unless the last
one is trusted after an earlier one was not. -/
theorem trusted_iff_all_iff (verified : verifyImaEvents events imaRefs = .ok detail) (other : name ≠ "boot_aggregate")
    (occurs : ∃ event ∈ events, event.isFor name = true) :
    (detail name = some true ↔ ∀ event ∈ events, event.isFor name = true → event.trusted imaRefs = true) ↔
      ¬ Relabelled imaRefs events name := by
  obtain ⟨_, _, rfl⟩ := verifyImaEvents_eq_ok.mp verified
  obtain ⟨front, last, back, rfl, here, after⟩ := exists_last occurs
  simp only [if_neg other, lastVerdict_eq here after, Option.some.injEq]
  constructor
  · rintro all ⟨front', last', back', split, here', trusted, after', earlier, held, own, untrusted⟩
    -- Both ways to set the last event apart give the verdict of the name.
    have verdicts := @lastVerdict_eq imaRefs name front back last here after
    rw [split, lastVerdict_eq here' after', trusted] at verdicts
    have whole := all.mp (Option.some.inj verdicts).symm earlier (split ▸ List.mem_append_left _ held) own
    rw [untrusted] at whole
    cases whole
  · intro steady
    constructor
    · intro trusted event held own
      by_contra untrusted
      have refused : event.trusted imaRefs = false := by simpa using untrusted
      rcases List.mem_append.mp held with before | now
      · exact steady ⟨front, last, back, rfl, here, trusted, after, event, before, own, refused⟩
      · rcases List.mem_cons.mp now with rfl | later
        · exact untrusted trusted
        · rw [after event later] at own
          cases own
    · intro all
      exact all last (List.mem_append_right front List.mem_cons_self) here

end Verdicts

section Relabelling

def plainEvent (pcrIndex : Nat) (digest : UInt8) (name : String) : Event where
  pcrIndex
  data := .imaNg (List.replicate 32 digest) name

/-- A shell that is measured twice, with another content the second time. -/
def remeasuredEvents (first second : UInt8) : List Event :=
  [plainEvent 4 0 "boot_aggregate", plainEvent 4 first "/bin/sh", plainEvent 4 second "/bin/sh"]

/-- The content `aa` is trusted. -/
def shellRefs : List String := [hexEncode (List.replicate 32 0xAA)]

theorem relabelled_trusted :
    ∃ detail, verifyImaEvents (remeasuredEvents 0xBB 0xAA) shellRefs = .ok detail ∧ detail "/bin/sh" = some true ∧
      ¬ ∀ event ∈ remeasuredEvents 0xBB 0xAA, event.isFor "/bin/sh" = true → event.trusted shellRefs = true := by
  refine ⟨_, verifyImaEvents_eq_ok.mpr ⟨by decide, by decide, rfl⟩, by decide, ?_⟩
  decide

theorem trusted_iff_all_iff_steady :
    ∃ detail : Detail, verifyImaEvents (remeasuredEvents 0xAA 0xBB) shellRefs = .ok detail ∧
      (detail "/bin/sh" = some true ↔
        ∀ event ∈ remeasuredEvents 0xAA 0xBB, event.isFor "/bin/sh" = true → event.trusted shellRefs = true) := by
  have verified : verifyImaEvents (remeasuredEvents 0xAA 0xBB) shellRefs = .ok fun name =>
      if name = "boot_aggregate" then none else lastVerdict shellRefs (remeasuredEvents 0xAA 0xBB) name :=
    verifyImaEvents_eq_ok.mpr ⟨by decide, by decide, rfl⟩
  have occurs : ∃ event ∈ remeasuredEvents 0xAA 0xBB, event.isFor "/bin/sh" = true :=
    ⟨plainEvent 4 0xAA "/bin/sh", by simp [remeasuredEvents], by decide⟩
  refine ⟨_, verified, (trusted_iff_all_iff verified (by decide) occurs).mpr ?_⟩
  rintro ⟨front, last, back, split, here, trusted, after, _⟩
  have verdict := @lastVerdict_eq shellRefs "/bin/sh" front back last here after
  rw [← split, trusted] at verdict
  exact absurd verdict (by decide)

end Relabelling

section Registers
variable (extend : Bytes → Event → Bytes) (start : Bytes)

/-- The events that went to a register. -/
def atIndex (index : Nat) (events : List Event) : List Event := events.filter fun event => event.pcrIndex = index

/-- The library returns the chain over the events of each register that has some. -/
def Chained (env : Env) : Prop :=
  ∀ log parsed, env.parse log = .ok parsed → ∀ index, parsed.pcrSha256 index =
    if atIndex index parsed.events = [] then none else some (Chains.value extend start (atIndex index parsed.events))

def detailOf (imaRefs : List String) (events : List Event) : Detail := fun name =>
  if name = "boot_aggregate" then none else lastVerdict imaRefs events name

variable {extend} {start} {env : Env} {log log' : Bytes} {cvmRem : Rems} {appId : Option String} {detail : Detail}

end Registers

section Shell

/-- The template data of an `ima-ng` event. -/
def templateData (digest : Bytes) (name : String) : Bytes :=
  Eventlog.le32 40 ++ Wire.utf8 "sha256:" ++ [0] ++ digest ++ Eventlog.le32 ((Wire.utf8 name).length + 1) ++
    Wire.utf8 name ++ [0]

/-- One measurement with the SHA-1 of its template data. -/
def logEntry (pcrIndex sha1 : Nat) (digest : Bytes) (name : String) : Bytes :=
  Eventlog.le32 pcrIndex ++ Wire.toBeBytes 20 sha1 ++ Eventlog.le32 6 ++ Wire.utf8 "ima-ng" ++
    Eventlog.le32 (templateData digest name).length ++ templateData digest name

/-- SHA-256 where the two logs need it: of the template data, then of the registers. -/
def shellHash (bytes : Bytes) : Bytes :=
  let boot := Wire.toBeBytes 32 0x36f1cd67a730bc4137870c4d00dbc7430b51b1ebdaa130744297cf65339078a0
  let untrusted := Wire.toBeBytes 32 0xa83b709faa6ac894e9d94241c289cf541c1cf62ea43bb595a5a639aa45891430
  let trusted := Wire.toBeBytes 32 0x102dd7aec4b0396e60becac35e41475de6d12f95e557163d58356b8bccc7fd23
  let booted := Wire.toBeBytes 32 0x35d08f4de6c76c315d9ea3e5fea0305fc1e902506504f80d7c98d6d4e6e33072
  if bytes = templateData (List.replicate 32 0) "boot_aggregate" then boot
  else if bytes = templateData (List.replicate 32 0xBB) "/bin/sh" then untrusted
  else if bytes = templateData (List.replicate 32 0xAA) "/bin/sh" then trusted
  else if bytes = List.replicate 32 0 ++ boot then booted
  else if bytes = booted ++ untrusted then
    Wire.toBeBytes 32 0xd1a2027af621f925c5984c6e70f7beadd6147cea3763fdcc48d920ec16f62af7
  else if bytes = List.replicate 32 0 ++ trusted then
    Wire.toBeBytes 32 0xa7f0ae97af8998ab8c7d8e9c2be083fb9a0e403a6357221b82dfac8d56596d1e
  else []

def shellExtend (value : Bytes) (event : Event) : Bytes :=
  match event.data with
  | .imaNg digest name => shellHash (value ++ shellHash (templateData digest name))
  | .other _ => []

/-- An untrusted shell in the fourth register. -/
def shellEvents : List Event := [plainEvent 4 0 "boot_aggregate", plainEvent 4 0xBB "/bin/sh"]

def shellLog : Bytes :=
  logEntry 4 0x0adefe762c149c7cec19da62f0da1297fcfbffff (List.replicate 32 0) "boot_aggregate" ++
    logEntry 4 0xbb3063d25fca3cae71d7566d0c76699a1cf95c1c (List.replicate 32 0xBB) "/bin/sh"

/-- A trusted shell in the first register, which nobody compares. -/
def addedLog : Bytes := logEntry 1 0xf3b2dd4c9ba40f1d325b14b0ab84dd9c762cba47 (List.replicate 32 0xAA) "/bin/sh"

def shellParsed (events : List Event) : Parsed where
  events
  pcrSha256 index :=
    if atIndex index events = [] then none
    else some (Chains.value shellExtend (List.replicate 32 0) (atIndex index events))

def shellEnv : Env where
  parse log :=
    if log = shellLog then .ok (shellParsed shellEvents)
    else if log = shellLog ++ addedLog then .ok (shellParsed (shellEvents ++ [plainEvent 1 0xAA "/bin/sh"]))
    else bail "unexpected end of file"
  readLines _ := .ok shellRefs
  fileExists _ := false
  noAs := false

theorem shell_parses : shellEnv.parse shellLog = .ok (shellParsed shellEvents) := by
  simp only [shellEnv, if_true]

end Shell

end UnifiedAttestation.Ima
