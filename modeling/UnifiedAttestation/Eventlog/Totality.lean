import UnifiedAttestation.Eventlog.Binding

/-! When the verification of an event log panics.

The parser never asks whether the bytes it comes to are there, so it panics on a log that
is cut short at one of them. `Framed` reads a log by its sizes alone: an index in range
plus a size of at most 32 bits stays far from the end of a `usize`.
-/

set_option autoImplicit false

namespace UnifiedAttestation.Eventlog

open Wire (Bytes Outcome orBail)
open Grpc (hexEncode)

section Frames
variable (data : Bytes)

/-- The number in some bytes, whether they are all there or not. -/
def leAt (index count : Nat) : Nat := littleEndian ((data.drop index).take count)

/-- The digest sizes after a table of some algorithms. -/
def declaredSizes : Nat → Nat → DigestSizes → DigestSizes
  | 0, _, sizes => sizes
  | count + 1, index, sizes => declaredSizes count (index + 4) (sizes.insert (leAt data index 2) (leAt data (index + 2) 2))

/-- Where some digests end, unless the size of one of them is not declared. -/
def digestsEnd (sizes : DigestSizes) : Nat → Nat → Option Nat
  | 0, index => some index
  | count + 1, index => (sizes.lookup (leAt data index 2)).bind fun size => digestsEnd sizes count (index + 2 + size)

/-- Some digests lie inside the data, up to the first one of no declared size. -/
def DigestsFit (sizes : DigestSizes) : Nat → Nat → Prop
  | 0, _ => True
  | count + 1, index => index + 2 ≤ data.length ∧ ∀ size, sizes.lookup (leAt data index 2) = some size →
      index + 2 + size ≤ data.length ∧ DigestsFit sizes count (index + 2 + size)

def NoAction (index : Nat) : Prop := eventTypeName (leAt data (index + 4) 4) = "EV_NO_ACTION"

def Stops (index : Nat) : Prop := leAt data index 8 = 0xFFFFFFFFFFFFFFFF ∨ leAt data index 8 = 0

/-- Everything that is read from an index on lies inside the data. -/
inductive Framed : Nat → DigestSizes → Prop where
  | finished {index : Nat} {sizes : DigestSizes} : data.length ≤ index → Framed index sizes
  | header {index : Nat} {sizes : DigestSizes} : index + 60 ≤ data.length → NoAction data index →
      index + 60 + 4 * leAt data (index + 56) 4 + 1 ≤ data.length →
      Framed (index + 60 + 4 * leAt data (index + 56) 4 + leAt data (index + 60 + 4 * leAt data (index + 56) 4) 1 + 1)
        (declaredSizes data (leAt data (index + 56) 4) (index + 60) sizes) → Framed index sizes
  | stopped {index : Nat} {sizes : DigestSizes} : index + 8 ≤ data.length → ¬ NoAction data index →
      Stops data index → Framed index sizes
  | undeclared {index : Nat} {sizes : DigestSizes} : index + 12 ≤ data.length → ¬ NoAction data index →
      ¬ Stops data index → DigestsFit data sizes (leAt data (index + 8) 4) (index + 12) →
      digestsEnd data sizes (leAt data (index + 8) 4) (index + 12) = none → Framed index sizes
  | entry {index last : Nat} {sizes : DigestSizes} : index + 12 ≤ data.length → ¬ NoAction data index →
      ¬ Stops data index → DigestsFit data sizes (leAt data (index + 8) 4) (index + 12) →
      digestsEnd data sizes (leAt data (index + 8) 4) (index + 12) = some last →
      last + 4 + leAt data last 4 ≤ data.length → Framed (last + 4 + leAt data last 4) sizes → Framed index sizes

variable {data}

theorem slice_eq {start count : Nat} :
    slice data start (start + count) =
      if start + count ≤ data.length then .ok ((data.drop start).take count) else .error .panic := by
  simp [slice]

theorem readLe_eq (index count : Nat) :
    readLe data index count = if index + count ≤ data.length then .ok (leAt data index count) else .error .panic := by
  rw [readLe, slice_eq]
  by_cases fits : index + count ≤ data.length
  · rw [if_pos fits, if_pos fits]
    rfl
  · rw [if_neg fits, if_neg fits]
    rfl

theorem readLe_fits {index count : Nat} (fits : index + count ≤ data.length) :
    readLe data index count = .ok (leAt data index count) := by
  rw [readLe_eq, if_pos fits]

theorem readLe_short {index count : Nat} (short : data.length < index + count) :
    readLe data index count = .error .panic := by
  rw [readLe_eq, if_neg (by omega)]

theorem readSizes_fits {count index : Nat} {sizes : DigestSizes} (fits : index + 4 * count ≤ data.length) :
    readSizes data count index sizes = .ok (declaredSizes data count index sizes, index + 4 * count) := by
  induction count generalizing index sizes with
  | zero => rfl
  | succ count ih =>
    rw [readSizes, readLe_fits (by omega), readLe_fits (by omega), declaredSizes]
    simp only [Wire.ok_bind]
    rw [ih (by omega)]
    congr 2
    omega

theorem readSizes_short {count index : Nat} {sizes : DigestSizes} (short : data.length < index + 4 * count)
    (within : index ≤ data.length) : readSizes data count index sizes = .error .panic := by
  induction count generalizing index sizes with
  | zero => omega
  | succ count ih =>
    by_cases fits : index + 4 ≤ data.length
    · rw [readSizes, readLe_fits (by omega), readLe_fits (by omega)]
      exact ih (by omega) fits
    · by_cases half : index + 2 ≤ data.length
      · rw [readSizes, readLe_fits half, readLe_short (by omega)]
        rfl
      · rw [readSizes, readLe_short (by omega)]
        rfl

theorem readDigests_undeclared {sizes : DigestSizes} {count index : Nat} (there : index + 2 ≤ data.length)
    (unknown : sizes.lookup (leAt data index 2) = none) :
    ∃ chain, readDigests data sizes (count + 1) index = .error (.error chain) := by
  rw [readDigests, readLe_fits there, Wire.ok_bind, unknown]
  exact ⟨_, rfl⟩

theorem readDigests_declared {sizes : DigestSizes} {count index size : Nat} (there : index + 2 ≤ data.length)
    (declared : sizes.lookup (leAt data index 2) = some size) :
    readDigests data sizes (count + 1) index =
      if index + 2 + size ≤ data.length then
        (readDigests data sizes count (index + 2 + size)).map fun rest =>
          ({ algorithm := algorithmName (leAt data index 2), digest := (data.drop (index + 2)).take size } :: rest.1, rest.2)
      else .error .panic := by
  rw [readDigests, readLe_fits there, Wire.ok_bind, declared, orBail, Wire.ok_bind, slice_eq]
  by_cases fits : index + 2 + size ≤ data.length
  · rw [if_pos fits, if_pos fits]
    rfl
  · rw [if_neg fits, if_neg fits]
    rfl

theorem readDigests_short {sizes : DigestSizes} {count index : Nat} (short : ¬ DigestsFit data sizes count index) :
    readDigests data sizes count index = .error .panic := by
  induction count generalizing index with
  | zero => exact absurd trivial short
  | succ count ih =>
    by_cases there : index + 2 ≤ data.length
    · simp only [DigestsFit, there, true_and, not_forall, not_and] at short
      obtain ⟨size, declared, beyond⟩ := short
      rw [readDigests_declared there declared]
      by_cases fits : index + 2 + size ≤ data.length
      · rw [if_pos fits, ih (beyond fits)]
        rfl
      · rw [if_neg fits]
    · rw [readDigests, readLe_short (by omega)]
      rfl

theorem readDigests_fits {sizes : DigestSizes} {count index : Nat} (fits : DigestsFit data sizes count index) :
    (∃ last digests, digestsEnd data sizes count index = some last ∧
        readDigests data sizes count index = .ok (digests, last)) ∨
      ∃ chain, digestsEnd data sizes count index = none ∧
        readDigests data sizes count index = .error (.error chain) := by
  induction count generalizing index with
  | zero => exact .inl ⟨index, [], rfl, rfl⟩
  | succ count ih =>
    obtain ⟨there, each⟩ := fits
    rw [digestsEnd]
    cases declared : sizes.lookup (leAt data index 2) with
    | none =>
      obtain ⟨chain, read⟩ := @readDigests_undeclared data sizes count index there declared
      exact .inr ⟨chain, rfl, read⟩
    | some size =>
      obtain ⟨fits, later⟩ := each size declared
      rw [readDigests_declared there declared, if_pos fits, Option.bind_some]
      rcases ih later with ⟨last, digests, ends, read⟩ | ⟨chain, ends, read⟩
      · rw [read]
        exact .inl ⟨last, _, ends, rfl⟩
      · rw [read]
        exact .inr ⟨chain, ends, rfl⟩

/-- The entry whose numbers stand at an index. -/
def entryAt (data : Bytes) (index : Nat) (digests : List ElDigest) (eventDesc : Bytes) : EventlogEntry where
  targetMeasurementRegistry := leAt data index 4
  eventTypeId := leAt data (index + 4) 4
  eventType := eventTypeName (leAt data (index + 4) 4)
  digests
  eventDesc

section Entry
variable {rounds index : Nat} {sizes : DigestSizes}

/-- The header entry, whose table reaches to a vendor byte. -/
theorem parseEntries_header (noAction : NoAction data index) (there : index + 60 ≤ data.length) :
    parseEntries data (rounds + 1) index sizes =
      if index + 60 + 4 * leAt data (index + 56) 4 + 1 ≤ data.length then
        parseEntries data rounds
          (index + 60 + 4 * leAt data (index + 56) 4 + leAt data (index + 60 + 4 * leAt data (index + 56) 4) 1 + 1)
          (declaredSizes data (leAt data (index + 56) 4) (index + 60) sizes)
      else .error .panic := by
  have noAction' : eventTypeName (leAt data (index + 4) 4) = "EV_NO_ACTION" := noAction
  rw [parseEntries, if_neg (by omega), readLe_fits (by omega), readLe_fits (by omega), readLe_fits (by omega)]
  simp only [Wire.ok_bind, noAction', if_true]
  -- Behind the register and the type, 48 bytes are skipped before the size of the table.
  rw [readLe_fits (by omega), Wire.ok_bind, show index + 8 + 48 = index + 56 from rfl,
    show index + 56 + 4 = index + 60 from rfl]
  by_cases fits : index + 60 + 4 * leAt data (index + 56) 4 ≤ data.length
  · rw [readSizes_fits fits, Wire.ok_bind, readLe_eq]
    by_cases vendor : index + 60 + 4 * leAt data (index + 56) 4 + 1 ≤ data.length
    · rw [if_pos vendor, if_pos vendor]
      rfl
    · rw [if_neg vendor, if_neg vendor]
      rfl
  · rw [readSizes_short (by omega) (by omega), if_neg (by omega)]
    rfl

theorem parseEntries_stopped (other : ¬ NoAction data index) (stops : Stops data index)
    (there : index + 8 ≤ data.length) : parseEntries data (rounds + 1) index sizes = .ok [] := by
  have other' : eventTypeName (leAt data (index + 4) 4) ≠ "EV_NO_ACTION" := other
  have stops' : leAt data index 8 = 0xFFFFFFFFFFFFFFFF ∨ leAt data index 8 = 0 := stops
  rw [parseEntries, if_neg (by omega), readLe_fits (by omega), readLe_fits (by omega), readLe_fits (by omega)]
  simp only [Wire.ok_bind, other', if_false, stops', if_true]

theorem parseEntries_entry (other : ¬ NoAction data index) (goes : ¬ Stops data index)
    (there : index + 12 ≤ data.length) :
    parseEntries data (rounds + 1) index sizes = (do
      let digests ← readDigests data sizes (leAt data (index + 8) 4) (index + 12)
      let size ← readLe data digests.2 4
      let eventDesc ← slice data (digests.2 + 4) (digests.2 + 4 + size)
      let rest ← parseEntries data rounds (digests.2 + 4 + size) sizes
      .ok (entryAt data index digests.1 eventDesc :: rest)) := by
  have other' : eventTypeName (leAt data (index + 4) 4) ≠ "EV_NO_ACTION" := other
  have goes' : ¬ (leAt data index 8 = 0xFFFFFFFFFFFFFFFF ∨ leAt data index 8 = 0) := goes
  rw [parseEntries, if_neg (by omega), readLe_fits (by omega), readLe_fits (by omega), readLe_fits (by omega)]
  simp only [Wire.ok_bind, other', if_false, goes']
  rw [readLe_fits (by omega), Wire.ok_bind]
  rfl

end Entry

/-- A framed log is parsed without a panic, in any number of rounds. -/
theorem Framed.parses {index : Nat} {sizes : DigestSizes} (framed : Framed data index sizes) (rounds : Nat) :
    parseEntries data rounds index sizes ≠ .error .panic := by
  induction framed generalizing rounds with
  | finished ended =>
    cases rounds with
    | zero => simp [parseEntries]
    | succ rounds => simp [parseEntries, ended]
  | header there noAction fits _ ih =>
    cases rounds with
    | zero => simp [parseEntries]
    | succ rounds =>
      rw [parseEntries_header noAction there, if_pos fits]
      exact ih rounds
  | stopped there other stops =>
    cases rounds with
    | zero => simp [parseEntries]
    | succ rounds => simp [parseEntries_stopped other stops there]
  | undeclared there other goes fits ends =>
    cases rounds with
    | zero => simp [parseEntries]
    | succ rounds =>
      -- An algorithm without a declared size is an error, not a panic.
      rw [parseEntries_entry other goes there]
      rcases readDigests_fits fits with ⟨last, digests, found, _⟩ | ⟨chain, _, read⟩
      · rw [ends] at found
        cases found
      · rw [read]
        simp [bind, Except.bind]
  | entry there other goes fits ends within _ ih =>
    cases rounds with
    | zero => simp [parseEntries]
    | succ rounds =>
      rw [parseEntries_entry other goes there]
      rcases readDigests_fits fits with ⟨last', digests, found, read⟩ | ⟨chain, found, _⟩
      · cases ends.symm.trans found
        rw [read, Wire.ok_bind, readLe_fits (by omega), Wire.ok_bind, slice_eq, if_pos within, Wire.ok_bind]
        intro panics
        cases rest : parseEntries data rounds _ _ with
        | error fault =>
          rw [rest] at panics
          cases panics
          exact ih rounds rest
        | ok entries =>
          rw [rest] at panics
          cases panics
      · rw [ends] at found
        cases found

/-- A log that is parsed in enough rounds without a panic is framed. -/
theorem framed_of_parses {rounds index : Nat} {sizes : DigestSizes} (enough : data.length ≤ index + rounds)
    (parses : parseEntries data rounds index sizes ≠ .error .panic) : Framed data index sizes := by
  induction rounds generalizing index sizes with
  | zero => exact .finished enough
  | succ rounds ih =>
    by_cases ended : data.length ≤ index
    · exact .finished ended
    by_cases there : index + 8 ≤ data.length
    · by_cases noAction : NoAction data index
      · by_cases whole : index + 60 ≤ data.length
        · rw [parseEntries_header noAction whole] at parses
          by_cases fits : index + 60 + 4 * leAt data (index + 56) 4 + 1 ≤ data.length
          · rw [if_pos fits] at parses
            exact .header whole noAction fits (ih (by omega) parses)
          · rw [if_neg fits] at parses
            exact absurd rfl parses
        · -- A header that ends before its table panics at the size of the table.
          have noAction' : eventTypeName (leAt data (index + 4) 4) = "EV_NO_ACTION" := noAction
          rw [parseEntries, if_neg ended, readLe_fits there, readLe_fits (by omega), readLe_fits (by omega)] at parses
          simp only [Wire.ok_bind, noAction', if_true] at parses
          rw [readLe_short (by omega)] at parses
          exact absurd rfl parses
      by_cases stops : Stops data index
      · exact .stopped there noAction stops
      by_cases counted : index + 12 ≤ data.length
      · rw [parseEntries_entry noAction stops counted] at parses
        by_cases fits : DigestsFit data sizes (leAt data (index + 8) 4) (index + 12)
        · rcases readDigests_fits fits with ⟨last, digests, ends, read⟩ | ⟨chain, ends, read⟩
          · rw [read, Wire.ok_bind, readLe_eq] at parses
            -- The entry consumes some bytes, so the rounds that are left are still enough.
            have further : index + 12 ≤ last := readDigests_index read
            by_cases sized : last + 4 ≤ data.length
            · rw [if_pos sized, Wire.ok_bind, slice_eq] at parses
              by_cases within : last + 4 + leAt data last 4 ≤ data.length
              · rw [if_pos within, Wire.ok_bind] at parses
                refine .entry counted noAction stops fits ends within (ih (by omega) fun panics => parses ?_)
                rw [panics]
                rfl
              · rw [if_neg within] at parses
                exact absurd rfl parses
            · rw [if_neg sized] at parses
              exact absurd rfl parses
          · exact .undeclared counted noAction stops fits ends
        · rw [readDigests_short fits] at parses
          exact absurd rfl parses
      · -- Only the register and the type are there, and the count of digests is read next.
        have noAction' : eventTypeName (leAt data (index + 4) 4) ≠ "EV_NO_ACTION" := noAction
        have stops' : ¬ (leAt data index 8 = 0xFFFFFFFFFFFFFFFF ∨ leAt data index 8 = 0) := stops
        rw [parseEntries, if_neg ended, readLe_fits there, readLe_fits (by omega), readLe_fits (by omega)] at parses
        simp only [Wire.ok_bind, noAction', if_false, stops'] at parses
        rw [readLe_short (by omega)] at parses
        exact absurd rfl parses
    · rw [parseEntries, if_neg ended, readLe_short (by omega)] at parses
      exact absurd rfl parses

theorem tryFrom_ne_panic_iff : tryFrom data ≠ .error .panic ↔ Framed data 0 ∅ :=
  ⟨framed_of_parses (by omega), fun framed => framed.parses data.length⟩

theorem parseEntries_enough {rounds : Nat} (enough : data.length ≤ 8 * rounds) :
    parseEntries data rounds 0 ∅ = tryFrom data := by
  have more : ∀ {rounds : Nat}, data.length ≤ 8 * rounds → ∀ added,
      parseEntries data (rounds + added) 0 ∅ = parseEntries data rounds 0 ∅ := by
    intro rounds enough added
    induction added with
    | zero => rfl
    | succ added ih =>
      have longer : data.length ≤ 0 + 8 * (rounds + added) := by omega
      rw [← ih]
      exact parseEntries_rounds ∅ longer
  have whole : tryFrom data = parseEntries data (data.length + rounds) 0 ∅ := (more (by omega) rounds).symm
  rw [whole, ← more enough data.length, Nat.add_comm]

end Frames

section Verified
variable {env : Env} {eventLog : Bytes} {rems : Rems} {eventRefs : List String}

theorem replay_validated {sha256 : Bytes → Bytes} {log : List EventlogEntry}
    (validated : validateEventLogDigests log = .ok ()) : replayMeasurementRegistry sha256 log ≠ .error .panic := by
  have digested : Digested log := fun entry held => firstDigest_digests (validateFrom_eq_ok.mp validated entry held)
  obtain ⟨replayed, replays, _⟩ := @replayMeasurementRegistry_eq sha256 log digested
  rw [replays]
  simp

theorem validateFrom_ne_panic (index : Nat) (log : List EventlogEntry) : validateFrom index log ≠ .error .panic := by
  induction log generalizing index with
  | nil => simp [validateFrom]
  | cons entry rest ih =>
    rw [validateFrom]
    cases entry.digests.head? with
    | none => simp [Wire.bail]
    | some digest =>
      simp only
      by_cases empty : digest.digest = []
      · simp [empty, Wire.bail]
      · rw [if_neg empty]
        exact ih (index + 1)

/-- With the reference file at hand, a parsed log panics only where it counts a 256th image. -/
theorem verifyParsed_panic_iff {log : List EventlogEntry}
    (readable : fileReader env (eventReferenceFile env.noAs) = .ok eventRefs) :
    verifyParsed env log rems = .error .panic ↔
      env.overflowChecks = true ∧ validateEventLogDigests log = .ok () ∧ Accepts env.sha256 log rems ∧
        255 < (images log).length := by
  rw [verifyParsed]
  cases validated : validateEventLogDigests log with
  | error fault =>
    have other : fault ≠ .panic := by
      rintro rfl
      exact validateFrom_ne_panic 0 log validated
    simp [bind, Except.bind, other]
  | ok =>
    have digested := validateFrom_eq_ok.mp validated
    obtain ⟨replayed, replays, _⟩ :=
      @replayMeasurementRegistry_eq env.sha256 log fun entry held => firstDigest_digests (digested entry held)
    have accepts : Accepts env.sha256 log rems ↔ compareRtmrWithEventLog replayed rems = true := by
      constructor
      · rintro ⟨_, again, compares⟩
        cases replays.symm.trans again
        exact compares
      · exact fun compares => ⟨replayed, replays, compares⟩
    rw [replays, accepts, readable, firmwareLogState_eq env.overflowChecks digested, Wire.ok_bind, Wire.ok_bind]
    by_cases compares : compareRtmrWithEventLog replayed rems = true
    · have images_eq : ((scanned log).filter isImage).length = (images log).length := rfl
      rw [images_eq]
      by_cases full : env.overflowChecks = true ∧ 255 < (images log).length
      · simp [Wire.ensure, compares, Wire.context, full.1, full.2, bind, Except.bind]
      · rw [if_neg full]
        have fits : ¬ (env.overflowChecks = true ∧ () = () ∧ True ∧ 255 < (images log).length) := by
          rintro ⟨checks, _, _, many⟩
          exact full ⟨checks, many⟩
        simp only [Wire.ensure, compares, Wire.context, if_true, bind, Except.bind]
        exact iff_of_false (by simp) (by simpa using fits)
    · simp [Wire.ensure, compares, bind, Except.bind]

/-- Everything the verification of a log reads lies inside it, and the count of its images
does not overflow where that is checked. -/
structure Sound (env : Env) (eventLog : Bytes) (rems : Rems) : Prop where
  framed : Framed eventLog 0 ∅
  counted : ∀ log, env.overflowChecks = true → tryFrom eventLog = .ok log → validateEventLogDigests log = .ok () →
    Accepts env.sha256 log rems → (images log).length ≤ 255

/-- With the reference file at hand a log is verified or refused exactly when it is sound;
any log is parsed in a round for every eight bytes, and a validated one is replayed. -/
theorem eventVerify_total_iff (readable : fileReader env (eventReferenceFile env.noAs) = .ok eventRefs) :
    (eventVerify env eventLog rems ≠ .error .panic ↔ Sound env eventLog rems) ∧
      (∀ rounds, eventLog.length ≤ 8 * rounds → parseEntries eventLog rounds 0 ∅ = tryFrom eventLog) ∧
      ∀ log, validateEventLogDigests log = .ok () → replayMeasurementRegistry env.sha256 log ≠ .error .panic := by
  refine ⟨?_, fun rounds enough => parseEntries_enough enough, fun log validated => replay_validated validated⟩
  rw [eventVerify]
  by_cases empty : eventLog = []
  · subst empty
    rw [if_pos rfl]
    refine iff_of_true (by simp) ⟨.finished (Nat.le_refl 0), fun log _ parses _ _ => ?_⟩
    cases parses
    exact Nat.zero_le _
  rw [if_neg empty]
  constructor
  · intro total
    have framed : Framed eventLog 0 ∅ := by
      rw [← tryFrom_ne_panic_iff]
      intro panics
      rw [panics] at total
      exact total rfl
    refine ⟨framed, fun log checks parses validated accepted => ?_⟩
    rw [parses] at total
    by_contra many
    exact total ((verifyParsed_panic_iff readable).mpr ⟨checks, validated, accepted, by omega⟩)
  · rintro ⟨framed, counted⟩ panics
    have parsed := tryFrom_ne_panic_iff.mpr framed
    cases parses : tryFrom eventLog with
    | error fault =>
      rw [parses] at panics
      cases fault with
      | panic => exact parsed parses
      | error chain => cases panics
    | ok log =>
      rw [parses] at panics
      obtain ⟨checks, validated, accepted, many⟩ := (verifyParsed_panic_iff readable).mp panics
      have few := counted log checks parses validated accepted
      omega

end Verified

section Short

/-- One byte is a panic, and so is a header entry that ends behind its numbers. -/
theorem short_log_panics :
    fileReader unmeasuredEnv (eventReferenceFile unmeasuredEnv.noAs) = .ok [hexEncode (List.replicate 32 0xBB)] ∧
      eventVerify unmeasuredEnv [1] (fun _ => extendedOnce) = .error .panic ∧
      eventVerify unmeasuredEnv (le32 1 ++ le32 3) (fun _ => extendedOnce) = .error .panic := by
  refine ⟨?_, rfl, rfl⟩
  decide

theorem eventVerify_total_unmeasured : Sound unmeasuredEnv unmeasuredLog fun _ => extendedOnce := by
  refine (@eventVerify_total_iff unmeasuredEnv unmeasuredLog (fun _ => extendedOnce) [hexEncode (List.replicate 32 0xBB)] ?_).1.mp ?_
  · decide
  · obtain ⟨detail, verified, _⟩ := unmeasuredLog_verified
    rw [verified]
    simp

end Short

end UnifiedAttestation.Eventlog
