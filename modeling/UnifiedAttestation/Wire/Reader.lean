import Mathlib.Data.List.Basic
import Mathlib.Data.Nat.Basic
import Mathlib.Tactic.Ring

/-! Readers over a byte cursor, and what it means for a reader to undo a writer.

A reader consumes a front part of the bytes or fails, with its error messages
outermost first or by a panic. `Reads` says that a reader started on the bytes of
a value returns that value and stops right behind them, whatever follows.
-/

set_option autoImplicit false

namespace Wire

abbrev Bytes := List UInt8

inductive Fault where
  | error (chain : List String)
  | panic
  deriving DecidableEq, Repr

abbrev Outcome (β : Type) := Except Fault β

/-- Fail with a single message. -/
def bail {β : Type} (message : String) : Outcome β := .error (.error [message])

/-- Put a message in front of an error; a panic passes. -/
def context {β : Type} (message : String) : Outcome β → Outcome β
  | .ok value => .ok value
  | .error (.error chain) => .error (.error (message :: chain))
  | .error .panic => .error .panic

/-- The value of an optional result, or a single error. -/
def orBail {β : Type} (message : String) : Option β → Outcome β
  | some value => .ok value
  | none => bail message

/-- The value of an optional result, or the given error. -/
def okOr {ε β : Type} (error : ε) : Option β → Except ε β
  | some value => .ok value
  | none => .error error

/-- Go on where the condition holds, fail elsewhere. -/
def ensure {ε : Type} (condition : Prop) [Decidable condition] (error : ε) : Except ε Unit :=
  if condition then .ok () else .error error

/-- The value of an optional result, or a panic. -/
def orPanic {β : Type} : Option β → Outcome β
  | some value => .ok value
  | none => .error .panic

@[simp] theorem context_ok {β : Type} (message : String) (value : β) :
    context message (.ok value) = .ok value := rfl

@[simp] theorem orBail_some {β : Type} (message : String) (value : β) :
    orBail message (some value) = .ok value := rfl

@[simp] theorem orPanic_some {β : Type} (value : β) : orPanic (some value) = .ok value := rfl

@[simp] theorem ok_bind {β γ : Type} (value : β) (next : β → Outcome γ) :
    ((.ok value : Outcome β) >>= next) = next value := rfl

/-- A sequence succeeds exactly when both parts do. -/
theorem bind_eq_ok {ε β γ : Type} {first : Except ε β} {next : β → Except ε γ} {result : γ} :
    (first >>= next) = .ok result ↔ ∃ value, first = .ok value ∧ next value = .ok result := by
  cases first with
  | error fault =>
    constructor
    · intro fails
      cases fails
    · rintro ⟨_, fails, _⟩
      cases fails
  | ok value => simp [bind, Except.bind]

theorem map_eq_ok {ε β γ : Type} {f : β → γ} {outcome : Except ε β} {result : γ} :
    outcome.map f = .ok result ↔ ∃ value, outcome = .ok value ∧ f value = result := by
  cases outcome <;> simp [Except.map]

theorem bind_congr_ok {ε β γ : Type} {first : Except ε β} {next next' : β → Except ε γ}
    (same : ∀ value, first = .ok value → next value = next' value) : (first >>= next) = (first >>= next') := by
  cases first with
  | error fault => rfl
  | ok value => exact same value rfl

theorem mapError_eq_ok {ε φ β : Type} {translate : ε → φ} {outcome : Except ε β} {result : β} :
    outcome.mapError translate = .ok result ↔ outcome = .ok result := by
  cases outcome <;> simp [Except.mapError]

theorem okOr_eq_ok {ε β : Type} {error : ε} {value : Option β} {result : β} :
    okOr error value = .ok result ↔ value = some result := by
  cases value <;> simp [okOr]

theorem ensure_eq_ok {ε : Type} {condition : Prop} [Decidable condition] {error : ε} {result : Unit} :
    ensure condition error = .ok result ↔ condition := by
  by_cases holds : condition <;> simp [ensure, holds]

theorem orBail_eq_ok {β : Type} {message : String} {value : Option β} {result : β} :
    orBail message value = .ok result ↔ value = some result := by
  cases value <;> simp [orBail, bail]

theorem context_eq_ok {β : Type} {message : String} {outcome : Outcome β} {result : β} :
    context message outcome = .ok result ↔ outcome = .ok result := by
  rcases outcome with (chain | _) | value <;> simp [context]

section Numbers

/-- The lowest `count` base-256 digits, highest first. -/
def toBeBytes : Nat → Nat → Bytes
  | 0, _ => []
  | count + 1, n => UInt8.ofNat (n / 256 ^ count) :: toBeBytes count n

def fromBytesBe (bytes : Bytes) : Nat := bytes.foldl (fun acc byte => 256 * acc + byte.toNat) 0

@[simp] theorem toBeBytes_length (count n : Nat) : (toBeBytes count n).length = count := by
  induction count with
  | zero => rfl
  | succ count ih => simp [toBeBytes, ih]

theorem toBeBytes_fold (count n acc : Nat) :
    (toBeBytes count n).foldl (fun acc byte => 256 * acc + byte.toNat) acc =
      acc * 256 ^ count + n % 256 ^ count := by
  induction count generalizing acc with
  | zero => simp [toBeBytes, Nat.mod_one]
  | succ count ih =>
    have digit : (UInt8.ofNat (n / 256 ^ count)).toNat = n / 256 ^ count % 256 := UInt8.toNat_ofNat'
    have split := Nat.mod_mul (a := 256 ^ count) (b := 256) (x := n)
    rw [toBeBytes, List.foldl_cons, ih, digit, Nat.pow_succ, split]
    ring

theorem fromBytesBe_toBeBytes {count n : Nat} (fits : n < 256 ^ count) : fromBytesBe (toBeBytes count n) = n := by
  rw [fromBytesBe, toBeBytes_fold, Nat.zero_mul, Nat.zero_add, Nat.mod_eq_of_lt fits]

theorem fromBytesBe_fold (bytes : Bytes) (acc : Nat) :
    bytes.foldl (fun acc byte => 256 * acc + byte.toNat) acc = acc * 256 ^ bytes.length + fromBytesBe bytes := by
  rw [fromBytesBe]
  induction bytes generalizing acc with
  | nil => simp
  | cons byte bytes ih =>
    rw [List.foldl_cons, List.foldl_cons, ih, ih (256 * 0 + byte.toNat), List.length_cons, Nat.pow_succ]
    ring

theorem fromBytesBe_cons (byte : UInt8) (bytes : Bytes) :
    fromBytesBe (byte :: bytes) = byte.toNat * 256 ^ bytes.length + fromBytesBe bytes := by
  rw [fromBytesBe, List.foldl_cons, fromBytesBe_fold, Nat.mul_zero, Nat.zero_add]

theorem fromBytesBe_lt (bytes : Bytes) : fromBytesBe bytes < 256 ^ bytes.length := by
  induction bytes with
  | nil => decide
  | cons byte bytes ih =>
    have digit : byte.toNat + 1 ≤ 256 := byte.toNat_lt
    calc
      fromBytesBe (byte :: bytes) = byte.toNat * 256 ^ bytes.length + fromBytesBe bytes := fromBytesBe_cons byte bytes
      _ < (byte.toNat + 1) * 256 ^ bytes.length := by rw [Nat.succ_mul]; omega
      _ ≤ 256 * 256 ^ bytes.length := Nat.mul_le_mul_right _ digit
      _ = 256 ^ (byte :: bytes).length := by rw [List.length_cons, Nat.pow_succ, Nat.mul_comm]

theorem fromBytesBe_injective {first second : Bytes} (lengths : first.length = second.length)
    (same : fromBytesBe first = fromBytesBe second) : first = second := by
  induction first generalizing second with
  | nil => exact (List.length_eq_zero_iff.mp lengths.symm).symm
  | cons byte rest ih =>
    cases second with
    | nil => cases lengths
    | cons byte' rest' =>
      rw [List.length_cons, List.length_cons, Nat.add_right_cancel_iff] at lengths
      rw [fromBytesBe_cons, fromBytesBe_cons, lengths] at same
      have low := fromBytesBe_lt rest
      have low' := fromBytesBe_lt rest'
      rw [lengths] at low
      have digits : byte.toNat = byte'.toNat := by
        have size : 0 < 256 ^ rest'.length := Nat.pow_pos (by decide)
        have high := congrArg (· / 256 ^ rest'.length) same
        simpa [Nat.mul_comm _ (256 ^ rest'.length), Nat.mul_add_div size, Nat.div_eq_of_lt low,
          Nat.div_eq_of_lt low'] using high
      rw [digits, Nat.add_left_cancel_iff] at same
      rw [UInt8.toNat_inj.mp digits, ih lengths same]

end Numbers

section Texts

def utf8 (text : String) : Bytes := text.toUTF8.data.toList

def fromUtf8 (bytes : Bytes) : Option String := String.fromUTF8? ⟨bytes.toArray⟩

theorem fromUtf8_utf8 (text : String) : fromUtf8 (utf8 text) = some text := by
  have valid : (⟨text.toUTF8.data⟩ : ByteArray).IsValidUTF8 := text.isValidUTF8
  rw [fromUtf8, utf8, Array.toArray_toList, String.fromUTF8?, dif_pos valid]
  rfl

end Texts

/-- Ask for memory; above the limit of the address space this panics. -/
def reserve (limit size : Nat) : Outcome Unit := if size ≤ limit then .ok () else .error .panic

/-- A reader over a byte cursor. -/
abbrev Reader := StateT Bytes (Except Fault)

section Readers
variable {β γ : Type}

/-- Run a reader from the start of the bytes; bytes left over are ignored. -/
def decode (reader : Reader β) (bytes : Bytes) : Outcome β := (reader bytes).map Prod.fst

/-- Take exactly `count` bytes, or fail with the message. -/
def take (count : Nat) (message : String) : Reader Bytes := fun bytes =>
  if bytes.length < count then bail message else .ok (bytes.take count, bytes.drop count)

/-- The reader returns the value and consumes exactly the given bytes. -/
def Reads (reader : Reader β) (bytes : Bytes) (value : β) : Prop :=
  ∀ rest, reader (bytes ++ rest) = .ok (value, rest)

theorem Reads.decode {reader : Reader β} {bytes : Bytes} {value : β} (reads : Reads reader bytes value) :
    Wire.decode reader bytes = .ok value := by
  have whole := reads []
  rw [List.append_nil] at whole
  rw [Wire.decode, whole]
  rfl

theorem Reads.pure (value : β) : Reads (pure value) [] value := fun _ => rfl

theorem Reads.lift {outcome : Outcome β} {value : β} (same : outcome = .ok value) :
    Reads (liftM outcome) [] value := by
  subst same
  exact fun _ => rfl

theorem reserve_ok {limit size : Nat} (fits : size ≤ limit) : reserve limit size = .ok () := if_pos fits

/-- One reader after another reads one value behind the other. -/
theorem Reads.bind {reader : Reader β} {next : β → Reader γ} {first second : Bytes} {value : β} {result : γ}
    (reads : Reads reader first value) (reads' : Reads (next value) second result) :
    Reads (reader >>= next) (first ++ second) result := by
  intro rest
  have head := reads (second ++ rest)
  have step : (reader >>= next) (first ++ second ++ rest) =
      (reader (first ++ (second ++ rest))) >>= fun pair => next pair.1 pair.2 := by
    rw [List.append_assoc]
    rfl
  rw [step, head]
  exact reads' rest

/-- Whatever follows, one reader cannot read two values from the same bytes. -/
theorem Reads.unique {reader : Reader β} {first second rest rest' : Bytes} {value value' : β}
    (reads : Reads reader first value) (reads' : Reads reader second value') (same : first ++ rest = second ++ rest') :
    value = value' ∧ rest = rest' := by
  have left := reads rest
  rw [same, reads' rest'] at left
  obtain ⟨values, rests⟩ := Prod.mk.inj (Except.ok.inj left)
  exact ⟨values.symm, rests.symm⟩

theorem utf8_injective : Function.Injective utf8 := by
  intro left right same
  have decoded := congrArg fromUtf8 same
  rw [fromUtf8_utf8, fromUtf8_utf8] at decoded
  exact Option.some.inj decoded

/-- A last computation that reads nothing. -/
theorem Reads.bind_end {reader : Reader β} {next : β → Reader γ} {bytes : Bytes} {value : β} {result : γ}
    (reads : Reads reader bytes value) (reads' : Reads (next value) [] result) :
    Reads (reader >>= next) bytes result := by
  simpa using reads.bind reads'

/-- A first computation that reads nothing. -/
theorem Reads.lift_bind {outcome : Outcome β} {next : β → Reader γ} {bytes : Bytes} {value : β} {result : γ}
    (same : outcome = .ok value) (reads : Reads (next value) bytes result) :
    Reads (liftM outcome >>= next) bytes result := by
  subst same
  exact reads

theorem Reads.map {reader : Reader β} {bytes : Bytes} {value : β} (f : β → γ)
    (reads : Reads reader bytes value) : Reads (f <$> reader) bytes (f value) := by
  intro rest
  have whole := reads rest
  change (reader (bytes ++ rest)).bind (fun pair => Except.ok (f pair.1, pair.2)) = _
  rw [whole]
  rfl

theorem take_reads {count : Nat} (message : String) {bytes : Bytes} (length : bytes.length = count) :
    Reads (take count message) bytes bytes := by
  intro rest
  subst length
  have enough : ¬ (bytes ++ rest).length < bytes.length := by simp
  simp only [take, if_neg enough, List.take_left, List.drop_left]

/-- Read a value `count` times. -/
def replicate (reader : Reader β) : Nat → Reader (List β)
  | 0 => pure []
  | count + 1 => do
    let value ← reader
    let values ← replicate reader count
    pure (value :: values)

theorem replicate_reads {reader : Reader β} (write : β → Bytes) {values : List β}
    (each : ∀ value ∈ values, Reads reader (write value) value) :
    Reads (replicate reader values.length) (values.flatMap write) values := by
  induction values with
  | nil => exact Reads.pure []
  | cons value values ih =>
    rw [List.flatMap_cons, List.length_cons, replicate]
    exact (each value (by simp)).bind
      ((ih fun other member => each other (by simp [member])).bind_end (Reads.pure _))

/-- Elements that each take `least` bytes bound their number. -/
theorem mul_length_le_flatMap (write : β → Bytes) {least : Nat} (each : ∀ value, least ≤ (write value).length)
    (values : List β) : least * values.length ≤ (values.flatMap write).length := by
  induction values with
  | nil => simp
  | cons value values ih =>
    have first := each value
    rw [List.flatMap_cons, List.length_append, List.length_cons, Nat.mul_succ]
    omega

theorem length_le_flatMap (write : β → Bytes) {values : List β} {value : β} (member : value ∈ values) :
    (write value).length ≤ (values.flatMap write).length := by
  obtain ⟨before, after, rfl⟩ := List.append_of_mem member
  rw [List.flatMap_append, List.flatMap_cons, List.length_append, List.length_append]
  omega

/-- Convert each element with a fallible function, stopping at the first failure. -/
theorem mapM_ok {f : β → Outcome γ} {g : β → γ} {values : List β} (each : ∀ value ∈ values, f value = .ok (g value)) :
    values.mapM f = .ok (values.map g) := by
  induction values with
  | nil => rfl
  | cons value values ih =>
    rw [List.mapM_cons, each value (by simp), ih fun other member => each other (by simp [member])]
    rfl

end Readers

end Wire
