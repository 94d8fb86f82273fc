import UnifiedAttestation.Eventlog.Report
import UnifiedAttestation.Runs.Machines

/-! What the compared register values say about a log.

A register is a chain over the first digests of its entries, so its value determines
them as far as the hash can be trusted on the inputs of the replay. How the entries of
different registers are mixed does not show.
-/

set_option autoImplicit false

namespace UnifiedAttestation.Eventlog

open Wire (Bytes Outcome orPanic)

section Sequences
variable (sha256 : Bytes → Bytes)

/-- The first digests of a register, in log order. -/
def digestsOf (register : Nat) (log : List EventlogEntry) : List (Option Bytes) :=
  (inRegister register log).map fun entry => entry.digests.head?.map ElDigest.digest

def Digested (log : List EventlogEntry) : Prop := ∀ entry ∈ log, entry.digests ≠ []

/-- A register before its first entry. -/
def freshRegister : Bytes := List.replicate rtmrLengthByBytes 0

/-- One first digest is hashed into a register. -/
def extend (value : Bytes) (digest : Option Bytes) : Bytes := sha256 (value ++ digest.getD [])

/-- What the replay of a log hashes. -/
def hashed (log : List EventlogEntry) : Set Bytes :=
  {input | ∃ register value digest, Chains.Takes (extend sha256) freshRegister (digestsOf register log) value digest ∧
    input = value ++ digest.getD []}

/-- The replayed registers of the log pass the comparison with the values of a token. -/
def Accepts (log : List EventlogEntry) (rems : Rems) : Prop :=
  ∃ replayed, replayMeasurementRegistry sha256 log = .ok replayed ∧ compareRtmrWithEventLog replayed rems = true

/-- Both replays panic, or both succeed with the same value in each register. -/
def ReplaysAlike (log log' : List EventlogEntry) : Prop :=
  (replayMeasurementRegistry sha256 log = .error .panic ∧ replayMeasurementRegistry sha256 log' = .error .panic) ∨
    ∃ replayed replayed', replayMeasurementRegistry sha256 log = .ok replayed ∧
      replayMeasurementRegistry sha256 log' = .ok replayed' ∧
      ∀ register, replayed.lookup register = replayed'.lookup register

variable {sha256}

theorem digested_iff {log : List EventlogEntry} : Digested log ↔ ∀ register, none ∉ digestsOf register log := by
  simp only [Digested, digestsOf, inRegister, List.mem_map, List.mem_filter, Option.map_eq_none_iff,
    List.head?_eq_none_iff, decide_eq_true_eq, not_exists, not_and]
  constructor
  · rintro digested register entry ⟨held, _⟩
    exact digested entry held
  · intro apart entry held
    exact apart entry.targetMeasurementRegistry entry ⟨held, rfl⟩

theorem chain_eq (register : Nat) (log : List EventlogEntry) :
    chain sha256 (inRegister register log) = Chains.value (extend sha256) freshRegister (digestsOf register log) := by
  rw [chain, Chains.value, digestsOf, List.foldl_map]
  rfl

theorem inRegister_eq_nil {register : Nat} {log : List EventlogEntry} :
    inRegister register log = [] ↔ digestsOf register log = [] := by
  rw [digestsOf, List.map_eq_nil_iff]

theorem extendAll_undigested {entries : List EventlogEntry} (missing : ∃ entry ∈ entries, entry.digests = [])
    (value : Bytes) : extendAll sha256 value entries = .error .panic := by
  induction entries generalizing value with
  | nil =>
    obtain ⟨_, held, _⟩ := missing
    cases held
  | cons entry rest ih =>
    obtain ⟨other, held, undigested⟩ := missing
    cases first : entry.digests.head? with
    | none =>
      rw [extendAll, first]
      rfl
    | some digest =>
      have later : other ∈ rest := by
        rcases List.mem_cons.mp held with rfl | later
        · rw [undigested] at first
          cases first
        · exact later
      rw [extendAll, first]
      exact ih ⟨other, later, undigested⟩ _

theorem mapM_panic {β γ : Type} {f : β → Outcome γ} {items : List β}
    (each : ∀ item ∈ items, (∃ result, f item = .ok result) ∨ f item = .error .panic)
    (some : ∃ item ∈ items, f item = .error .panic) : items.mapM f = .error .panic := by
  induction items with
  | nil =>
    obtain ⟨_, held, _⟩ := some
    cases held
  | cons item items ih =>
    rw [List.mapM_cons]
    rcases each item List.mem_cons_self with ⟨result, fine⟩ | panics
    · have later : ∃ other ∈ items, f other = .error .panic := by
        obtain ⟨other, held, panics⟩ := some
        rcases List.mem_cons.mp held with rfl | later
        · rw [fine] at panics
          cases panics
        · exact ⟨other, later, panics⟩
      rw [fine, ih (fun other held => each other (List.mem_cons_of_mem _ held)) later]
      rfl
    · rw [panics]
      rfl

/-- Replaying an entry without a digest is a panic. -/
theorem replayMeasurementRegistry_undigested {log : List EventlogEntry} (undigested : ¬ Digested log) :
    replayMeasurementRegistry sha256 log = .error .panic := by
  have decided : ∀ entries : List EventlogEntry, Digested entries ∨ ∃ entry ∈ entries, entry.digests = [] := by
    intro entries
    by_cases all : Digested entries
    · exact .inl all
    · simp only [Digested, not_forall, not_not] at all
      obtain ⟨entry, held, none⟩ := all
      exact .inr ⟨entry, held, none⟩
  apply mapM_panic
  · rintro ⟨register, entries⟩ _
    rcases decided entries with all | missing
    · exact .inl ⟨_, by rw [extendAll_eq all]; rfl⟩
    · refine .inr ?_
      rw [extendAll_undigested missing]
      rfl
  · obtain ⟨entry, held, none⟩ := (decided log).resolve_left undigested
    have member : entry ∈ inRegister entry.targetMeasurementRegistry log := List.mem_filter.mpr ⟨held, by simp⟩
    have grouped := groupByRegister_lookup log entry.targetMeasurementRegistry
    rw [if_neg (List.ne_nil_of_mem member)] at grouped
    refine ⟨⟨_, _⟩, AList.mem_lookup_iff.mp grouped, ?_⟩
    rw [extendAll_undigested ⟨entry, member, none⟩]
    rfl

/-- A replay depends on the first digests of each register only. -/
theorem replaysAlike_of_digestsOf {log log' : List EventlogEntry}
    (same : ∀ register, digestsOf register log = digestsOf register log') : ReplaysAlike sha256 log log' := by
  by_cases digested : Digested log
  · have digested' : Digested log' := by
      rw [digested_iff] at digested ⊢
      intro register
      rw [← same register]
      exact digested register
    obtain ⟨replayed, replays, each⟩ := @replayMeasurementRegistry_eq sha256 log digested
    obtain ⟨replayed', replays', each'⟩ := @replayMeasurementRegistry_eq sha256 log' digested'
    refine .inr ⟨replayed, replayed', replays, replays', fun register => ?_⟩
    have chains : chain sha256 (inRegister register log) = chain sha256 (inRegister register log') := by
      rw [chain_eq, chain_eq, same register]
    simp only [each, each', inRegister_eq_nil, same register, chains]
  · have undigested' : ¬ Digested log' := by
      rw [digested_iff] at digested ⊢
      simpa only [same] using digested
    exact .inl ⟨replayMeasurementRegistry_undigested digested, replayMeasurementRegistry_undigested undigested'⟩

/-- Neighbours in different registers change places unnoticed. -/
theorem digestsOf_swap {x y : EventlogEntry} (front back : List EventlogEntry)
    (apart : x.targetMeasurementRegistry ≠ y.targetMeasurementRegistry) (register : Nat) :
    digestsOf register (front ++ x :: y :: back) = digestsOf register (front ++ y :: x :: back) := by
  have filtered : inRegister register (front ++ x :: y :: back) = inRegister register (front ++ y :: x :: back) := by
    simp only [inRegister, List.filter_append, List.filter_cons, decide_eq_true_eq]
    by_cases first : x.targetMeasurementRegistry = register
    · have second : y.targetMeasurementRegistry ≠ register := fun second => apart (first.trans second.symm)
      simp only [if_pos first, if_neg second]
    · simp only [if_neg first]
  rw [digestsOf, filtered, digestsOf]

end Sequences

section Bound
variable {sha256 : Bytes → Bytes} {log log' : List EventlogEntry} {rems : Rems}

/-- The compared registers of an accepted log have the values of the token. -/
theorem Accepts.compared (accepted : Accepts sha256 log rems) (digested : Digested log) :
    chain sha256 (inRegister 1 log) = rems 0 ∧ chain sha256 (inRegister 2 log) = rems 1 ∧
      chain sha256 (inRegister 3 log) = rems 2 := by
  obtain ⟨replayed, replays, compares⟩ := accepted
  obtain ⟨values, again, each⟩ := @replayMeasurementRegistry_eq sha256 log digested
  cases replays.symm.trans again
  rw [compareRtmrWithEventLog] at compares
  have matched : ∀ register index, (register, index) ∈ ([(1, 0), (2, 1), (3, 2)] : List (Nat × Fin 4)) →
      chain sha256 (inRegister register log) = rems index := by
    intro register index listed
    have passes := List.all_eq_true.mp compares (register, index) listed
    simp only [each] at passes
    by_cases none : inRegister register log = []
    · simp [none] at passes
    · simp only [if_neg none, Bool.and_eq_true, beq_iff_eq] at passes
      exact passes.2
  exact ⟨matched 1 0 (by simp), matched 2 1 (by simp), matched 3 2 (by simp)⟩

/-- Chains of one value take in the same digests, where the hash can be trusted. -/
theorem digestsOf_eq_of_chain {register : Nat} (sized : ∀ input, (sha256 input).length = 32)
    (injective : Set.InjOn sha256 (hashed sha256 log ∪ hashed sha256 log'))
    (nonzero : ∀ input ∈ hashed sha256 log ∪ hashed sha256 log', sha256 input ≠ List.replicate 32 0)
    (digested : Digested log) (digested' : Digested log')
    (same : chain sha256 (inRegister register log) = chain sha256 (inRegister register log')) :
    digestsOf register log = digestsOf register log' := by
  have length : ∀ {log : List EventlogEntry} {value : Bytes} {digest : Option Bytes},
      Chains.Takes (extend sha256) freshRegister (digestsOf register log) value digest → value.length = 32 :=
    fun taken => taken.invariant (I := fun value : Bytes => value.length = 32) rfl fun _ _ _ => sized _
  rw [chain_eq, chain_eq] at same
  -- A value has 32 bytes, so an input is a value and a digest in one way only.
  apply Chains.eq_of_value_eq _ _ _ same
  · intro value digest value' digest' taken taken' collide
    have inputs : value ++ digest.getD [] = value' ++ digest'.getD [] :=
      injective (.inl ⟨register, value, digest, taken, rfl⟩) (.inr ⟨register, value', digest', taken', rfl⟩) collide
    obtain ⟨sameValue, sameDigest⟩ := List.append_inj inputs ((length taken).trans (length taken').symm)
    refine ⟨sameValue, ?_⟩
    cases digest with
    | none => exact absurd taken.mem (digested_iff.mp digested register)
    | some digest =>
      cases digest' with
      | none => exact absurd taken'.mem (digested_iff.mp digested' register)
      | some digest' => exact congrArg some sameDigest
  · exact fun value digest taken => nonzero _ (.inl ⟨register, value, digest, taken, rfl⟩)
  · exact fun value digest taken => nonzero _ (.inr ⟨register, value, digest, taken, rfl⟩)

end Bound

/-- Logs accepted for the same values have the same first digests in the compared registers,
and a replay sees nothing but the first digests of each register. -/
theorem registers_bound {sha256 : Bytes → Bytes} (sized : ∀ input, (sha256 input).length = 32) :
    (∀ log log' rems, Set.InjOn sha256 (hashed sha256 log ∪ hashed sha256 log') →
      (∀ input ∈ hashed sha256 log ∪ hashed sha256 log', sha256 input ≠ List.replicate 32 0) →
      Digested log → Digested log' → Accepts sha256 log rems → Accepts sha256 log' rems →
        ∀ register ∈ [1, 2, 3], digestsOf register log = digestsOf register log') ∧
      (∀ log log', (∀ register, digestsOf register log = digestsOf register log') → ReplaysAlike sha256 log log') ∧
      (∀ front x y back, x.targetMeasurementRegistry ≠ y.targetMeasurementRegistry →
        ReplaysAlike sha256 (front ++ x :: y :: back) (front ++ y :: x :: back)) := by
  refine ⟨?_, fun log log' same => replaysAlike_of_digestsOf same, ?_⟩
  · intro log log' rems injective nonzero digested digested' accepted accepted' register compared
    obtain ⟨first, second, third⟩ := accepted.compared digested
    obtain ⟨first', second', third'⟩ := accepted'.compared digested'
    apply digestsOf_eq_of_chain sized injective nonzero digested digested'
    simp only [List.mem_cons, List.not_mem_nil, or_false] at compared
    rcases compared with rfl | rfl | rfl
    · exact first.trans first'.symm
    · exact second.trans second'.symm
    · exact third.trans third'.symm
  · intro front x y back apart
    exact replaysAlike_of_digestsOf (digestsOf_swap front back apart)

section Twice

/-- A log hashes nothing but what the chains of its registers take in. -/
theorem hashed_steps {sha256 : Bytes → Bytes} {log : List EventlogEntry} {input : Bytes}
    (found : input ∈ hashed sha256 log) : ∃ register ∈ log.map EventlogEntry.targetMeasurementRegistry,
      ∃ step ∈ Chains.steps (extend sha256) freshRegister (digestsOf register log), input = step.1 ++ step.2.getD [] := by
  obtain ⟨register, value, digest, taken, rfl⟩ := found
  obtain ⟨entry, held, _⟩ := List.mem_map.mp taken.mem
  obtain ⟨member, here⟩ := List.mem_filter.mp held
  exact ⟨register, List.mem_map.mpr ⟨entry, member, of_decide_eq_true here⟩, ⟨value, digest⟩, taken.mem_steps, rfl⟩

def twiceEntry (register : Nat) (digest : UInt8) (eventDesc : String) : EventlogEntry where
  targetMeasurementRegistry := register
  eventTypeId := 0x0D
  eventType := "EV_IPL"
  digests := [{ algorithm := "TPM_ALG_SHA256", digest := List.replicate 32 digest }]
  eventDesc := Wire.utf8 eventDesc

/-- The first register takes in two digests. -/
def twiceLog : List EventlogEntry :=
  [twiceEntry 1 0xAA "a", twiceEntry 2 0xAA "b", twiceEntry 1 0xBB "c", twiceEntry 3 0xBB "d"]

def twiceReordered : List EventlogEntry :=
  [twiceEntry 3 0xBB "x", twiceEntry 1 0xAA "y", twiceEntry 1 0xBB "z", twiceEntry 2 0xAA "w"]

/-- SHA-256 of `extendedOnce` and 32 bytes `bb`. -/
def extendedTwice : Bytes :=
  [0xaa, 0xf5, 0x1f, 0xeb, 0xf5, 0xed, 0x5e, 0x45, 0xe5, 0xbc, 0xd6, 0x2d, 0x12, 0x7a, 0x21, 0x32,
    0x8f, 0x3b, 0x78, 0xb9, 0x43, 0x37, 0x74, 0x66, 0xfb, 0x57, 0xcf, 0x30, 0x3b, 0x81, 0x4b, 0x9a]

/-- What is hashed for the two logs, with the results. -/
def twiceHashes : List (Bytes × Bytes) :=
  [(List.replicate 32 0 ++ List.replicate 32 0xAA, extendedOnce),
    (List.replicate 32 0 ++ List.replicate 32 0xBB, extendedOther),
    (extendedOnce ++ List.replicate 32 0xBB, extendedTwice)]

/-- SHA-256 where the two logs need it. -/
def twiceHash (bytes : Bytes) : Bytes := (twiceHashes.lookup bytes).getD (List.replicate 32 0)

def twiceRems : Rems
  | 0 => extendedTwice
  | 1 => extendedOnce
  | _ => extendedOther

theorem twiceHash_length (input : Bytes) : (twiceHash input).length = 32 := by
  have digests : ∀ pair ∈ twiceHashes, pair.2.length = 32 := by decide
  rw [twiceHash]
  cases found : twiceHashes.lookup input with
  | none => rfl
  | some digest =>
    obtain ⟨before, after, split, -⟩ := List.lookup_eq_some_iff.mp found
    exact digests (input, digest) (split ▸ List.mem_append_right before List.mem_cons_self)

theorem twice_hashed {input : Bytes} (found : input ∈ hashed twiceHash twiceLog ∪ hashed twiceHash twiceReordered) :
    input ∈ twiceHashes.map Prod.fst := by
  have listed : ∀ log ∈ [twiceLog, twiceReordered], ∀ register ∈ log.map EventlogEntry.targetMeasurementRegistry,
      ∀ step ∈ Chains.steps (extend twiceHash) freshRegister (digestsOf register log),
        step.1 ++ step.2.getD [] ∈ twiceHashes.map Prod.fst := by
    decide
  rcases found with found | found
  · obtain ⟨register, present, step, taken, rfl⟩ := hashed_steps found
    exact listed twiceLog (by simp) register present step taken
  · obtain ⟨register, present, step, taken, rfl⟩ := hashed_steps found
    exact listed twiceReordered (by simp) register present step taken

theorem registers_bound_twice :
    digestsOf 1 twiceLog = digestsOf 1 twiceReordered ∧
      digestsOf 2 twiceLog = digestsOf 2 twiceReordered ∧
      digestsOf 3 twiceLog = digestsOf 3 twiceReordered := by
  have apart : ∀ input ∈ twiceHashes.map Prod.fst, ∀ input' ∈ twiceHashes.map Prod.fst,
      twiceHash input = twiceHash input' → input = input' := by
    decide
  have nonzero : ∀ input ∈ twiceHashes.map Prod.fst, twiceHash input ≠ List.replicate 32 0 := by decide
  have bound : ∀ register ∈ [1, 2, 3], digestsOf register twiceLog = digestsOf register twiceReordered := by
    refine (registers_bound twiceHash_length).1 twiceLog twiceReordered twiceRems ?_ ?_ ?_ ?_ ?_ ?_
    · intro input found input' found' same
      exact apart input (twice_hashed found) input' (twice_hashed found') same
    · exact fun input found => nonzero input (twice_hashed found)
    · simp [Digested, twiceLog, twiceEntry]
    · simp [Digested, twiceReordered, twiceEntry]
    · exact ⟨_, rfl, by decide⟩
    · exact ⟨_, rfl, by decide⟩
  exact ⟨bound 1 (by simp), bound 2 (by simp), bound 3 (by simp)⟩

end Twice

end UnifiedAttestation.Eventlog
