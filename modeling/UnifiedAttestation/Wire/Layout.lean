import UnifiedAttestation.Wire.Reader

/-! Layouts of encoded values, and what a lenient reader of them lets pass.

A layout says which fields an encoding consists of. `Layout.scan` reads the fields at the
front of some bytes, writes each of them again in its own spelling, and notes where a writer
would not have written what it read. Bytes are their own rewriting exactly when nothing was
noted and nothing is left over.
-/

set_option autoImplicit false

namespace Wire

section Pieces

/-- A front part of `count` bytes, and the rest. -/
def cut (count : Nat) (bytes : Bytes) : Option (Bytes × Bytes) :=
  if bytes.length < count then none else some (bytes.take count, bytes.drop count)

def number (count : Nat) (bytes : Bytes) : Option (Nat × Bytes) :=
  (cut count bytes).map fun parts => (fromBytesBe parts.1, parts.2)

/-- Bytes behind their length, a number of eight bytes. -/
def slice (bytes : Bytes) : Option (Bytes × Bytes) := do
  let (len, rest) ← number 8 bytes
  cut len rest

def lenBytes (content : Bytes) : Bytes := toBeBytes 8 content.length ++ content

theorem toBeBytes_fromBytesBe (bytes : Bytes) : toBeBytes bytes.length (fromBytesBe bytes) = bytes := by
  apply fromBytesBe_injective (toBeBytes_length _ _)
  exact fromBytesBe_toBeBytes (fromBytesBe_lt bytes)

theorem toBeBytes_injective {count n n' : Nat} (fits : n < 256 ^ count) (fits' : n' < 256 ^ count)
    (same : toBeBytes count n = toBeBytes count n') : n = n' := by
  rw [← fromBytesBe_toBeBytes fits, same, fromBytesBe_toBeBytes fits']

theorem cut_eq_some {count : Nat} {bytes front rest : Bytes} :
    cut count bytes = some (front, rest) ↔ bytes = front ++ rest ∧ front.length = count := by
  unfold cut
  constructor
  · intro done
    split at done
    · cases done
    · next enough =>
      cases done
      exact ⟨(List.take_append_drop count bytes).symm, by rw [List.length_take]; omega⟩
  · rintro ⟨rfl, rfl⟩
    rw [if_neg (by simp), List.take_left, List.drop_left]

theorem number_eq_some {count n : Nat} {bytes rest : Bytes} :
    number count bytes = some (n, rest) ↔ bytes = toBeBytes count n ++ rest ∧ n < 256 ^ count := by
  simp only [number, Option.map_eq_some_iff, Prod.mk.injEq, Prod.exists]
  constructor
  · rintro ⟨front, _, parts, rfl, rfl⟩
    obtain ⟨rfl, rfl⟩ := cut_eq_some.mp parts
    exact ⟨by rw [toBeBytes_fromBytesBe], fromBytesBe_lt front⟩
  · rintro ⟨rfl, fits⟩
    exact ⟨toBeBytes count n, rest, cut_eq_some.mpr ⟨rfl, toBeBytes_length count n⟩, fromBytesBe_toBeBytes fits, rfl⟩

theorem slice_eq_some {bytes content rest : Bytes} :
    slice bytes = some (content, rest) ↔ bytes = lenBytes content ++ rest ∧ content.length < 2 ^ 64 := by
  simp only [slice, Option.bind_eq_bind, Option.bind_eq_some_iff, Prod.exists, number_eq_some, cut_eq_some, lenBytes,
    List.append_assoc]
  constructor
  · rintro ⟨_, _, ⟨rfl, fits⟩, rfl, rfl⟩
    exact ⟨rfl, fits⟩
  · rintro ⟨rfl, fits⟩
    exact ⟨content.length, content ++ rest, ⟨rfl, fits⟩, rfl, rfl⟩

theorem toBeBytes_append_inj {count n n' : Nat} {rest rest' : Bytes} (fits : n < 256 ^ count) (fits' : n' < 256 ^ count) :
    toBeBytes count n ++ rest = toBeBytes count n' ++ rest' ↔ n = n' ∧ rest = rest' := by
  constructor
  · intro same
    obtain ⟨numbers, rests⟩ := List.append_inj same (by simp)
    exact ⟨toBeBytes_injective fits fits' numbers, rests⟩
  · rintro ⟨rfl, rfl⟩
    rfl

theorem lenBytes_append_iff {content content' rest rest' : Bytes}
    (small : (lenBytes content' ++ rest').length < 2 ^ 64) :
    lenBytes content ++ rest = lenBytes content' ++ rest' ↔ content = content' ∧ rest = rest' := by
  constructor
  · intro same
    have lengths := congrArg List.length same
    simp only [lenBytes, List.length_append, toBeBytes_length] at lengths small
    rw [lenBytes, lenBytes, List.append_assoc, List.append_assoc, toBeBytes_append_inj (by omega) (by omega)] at same
    exact List.append_inj same.2 same.1
  · rintro ⟨rfl, rfl⟩
    rfl

end Pieces

/-- What a reader lets pass although no writer writes it: nanoseconds that make up whole
seconds, a field in another spelling than its own, bytes behind the last field of a slice. -/
inductive Oddity where
  | carry
  | respelled
  | leftover
  deriving DecidableEq, Repr

/-- What a scan found: the fields in their own spelling, the bytes behind them, and what it noted. -/
structure Reading where
  canonical : Bytes
  rest : Bytes
  oddities : List Oddity
  deriving DecidableEq

/-- The fields of an encoding. `form` turns the contents of a field into their own spelling, or
refuses them; an element of a vector takes `size` bytes of memory. -/
inductive Layout where
  | nothing
  | blob (form : Bytes → Option Bytes)
  | nested (inner : Layout)
  | duration
  | flag
  | option (inner : Layout)
  | vector (size : Nat) (inner : Layout)
  | seq (first second : Layout)

section Scanning

def Reading.after (front : Bytes) (reading : Reading) : Reading :=
  { reading with canonical := front ++ reading.canonical }

def Reading.append (first second : Reading) : Reading where
  canonical := first.canonical ++ second.canonical
  rest := second.rest
  oddities := first.oddities ++ second.oddities

def notedUnless (condition : Prop) [Decidable condition] (oddity : Oddity) : List Oddity :=
  if condition then [] else [oddity]

abbrev Scanner := Bytes → Option Reading

def Scanner.seq (first second : Scanner) : Scanner := fun bytes => do
  let reading ← first bytes
  let reading' ← second reading.rest
  some (reading.append reading')

def Scanner.repeated (scan : Scanner) : Nat → Scanner
  | 0 => fun bytes => some ⟨[], bytes, []⟩
  | count + 1 => scan.seq (scan.repeated count)

/-- Seconds and nanoseconds; the nanoseconds may carry, but not beyond 64 bits. -/
def scanDuration : Scanner := fun bytes => do
  let (secs, rest) ← number 8 bytes
  let (nanos, rest) ← number 4 rest
  let carried := secs + nanos / 10 ^ 9
  if carried < 2 ^ 64 then
    some ⟨toBeBytes 8 carried ++ toBeBytes 4 (nanos % 10 ^ 9), rest, notedUnless (nanos < 10 ^ 9) .carry⟩
  else none

def Layout.scan : Layout → Scanner
  | .nothing => fun bytes => some ⟨[], bytes, []⟩
  | .blob form => fun bytes => do
    let (content, rest) ← slice bytes
    let own ← form content
    some ⟨lenBytes own, rest, notedUnless (own = content) .respelled⟩
  | .nested inner => fun bytes => do
    let (content, rest) ← slice bytes
    let reading ← inner.scan content
    some ⟨lenBytes reading.canonical, rest, reading.oddities ++ notedUnless (reading.rest = []) .leftover⟩
  | .duration => scanDuration
  | .flag => fun bytes => do
    let (n, rest) ← number 1 bytes
    if n ≤ 1 then some ⟨toBeBytes 1 n, rest, []⟩ else none
  | .option inner => fun bytes => do
    let (n, rest) ← number 1 bytes
    match n with
    | 0 => some ⟨toBeBytes 1 0, rest, []⟩
    | 1 => (inner.scan rest).map (Reading.after (toBeBytes 1 1))
    | _ => none
  | .vector _ inner => fun bytes => do
    let (count, rest) ← number 8 bytes
    (Scanner.repeated inner.scan count rest).map (Reading.after (toBeBytes 8 count))
  | .seq first second => Scanner.seq first.scan second.scan

/-- The layout of a structure. -/
def Layout.fields : List Layout → Layout
  | [] => .nothing
  | first :: rest => .seq first (Layout.fields rest)

/-- What a scan of whole bytes notes; bytes behind the last field count. -/
def Layout.oddities (layout : Layout) (bytes : Bytes) : List Oddity :=
  match layout.scan bytes with
  | some reading => reading.oddities ++ notedUnless (reading.rest = []) .leftover
  | none => []

end Scanning

section Strictness

@[simp] theorem notedUnless_eq_nil {condition : Prop} [Decidable condition] {oddity : Oddity} :
    notedUnless condition oddity = [] ↔ condition := by
  by_cases holds : condition <;> simp [notedUnless, holds]

/-- Where nothing was noted the scanner rewrites the bytes to themselves, and only there. -/
def Scanner.Strict (scan : Scanner) : Prop :=
  ∀ bytes reading, bytes.length < 2 ^ 64 → scan bytes = some reading → reading.rest.length ≤ bytes.length ∧
    ∀ tail, reading.canonical ++ tail = bytes ↔ reading.oddities = [] ∧ tail = reading.rest

theorem Scanner.strict_nothing : Scanner.Strict fun bytes => some ⟨[], bytes, []⟩ := by
  intro bytes reading _ scanned
  cases scanned
  exact ⟨Nat.le_refl _, fun tail => by simp⟩

theorem Scanner.Strict.seq {first second : Scanner} (strict : first.Strict) (strict' : second.Strict) :
    (Scanner.seq first second).Strict := by
  intro bytes reading small scanned
  simp only [Scanner.seq, Option.bind_eq_bind, Option.bind_eq_some_iff, Option.some.injEq] at scanned
  obtain ⟨front, scanFront, back, scanBack, rfl⟩ := scanned
  obtain ⟨shorter, front_iff⟩ := strict bytes front small scanFront
  obtain ⟨shorter', back_iff⟩ := strict' front.rest back (Nat.lt_of_le_of_lt shorter small) scanBack
  refine ⟨Nat.le_trans shorter' shorter, fun tail => ?_⟩
  simp only [Reading.append, List.append_assoc, front_iff, back_iff, List.append_eq_nil_iff, and_assoc]

theorem Scanner.Strict.repeated {scan : Scanner} (strict : scan.Strict) (count : Nat) :
    (scan.repeated count).Strict := by
  induction count with
  | zero => exact Scanner.strict_nothing
  | succ count ih => exact strict.seq ih

theorem Reading.after_iff {front bytes tail : Bytes} {reading : Reading} :
    (reading.after front).canonical ++ tail = front ++ bytes ↔ reading.canonical ++ tail = bytes := by
  rw [Reading.after, List.append_assoc, List.append_cancel_left_eq]

theorem scanDuration_strict : Scanner.Strict scanDuration := by
  intro bytes reading _ scanned
  simp only [scanDuration, Option.bind_eq_bind, Option.bind_eq_some_iff, Prod.exists, number_eq_some,
    Option.ite_none_right_eq_some, Option.some.injEq] at scanned
  obtain ⟨secs, _, ⟨rfl, wide⟩, nanos, rest, ⟨rfl, wide'⟩, fits, rfl⟩ := scanned
  refine ⟨by simp only [List.length_append]; omega, fun tail => ?_⟩
  have low : nanos % 10 ^ 9 < 256 ^ 4 := by omega
  simp only [List.append_assoc, notedUnless_eq_nil]
  rw [toBeBytes_append_inj (by omega) wide, toBeBytes_append_inj low wide']
  constructor
  · rintro ⟨_, uncarried, same⟩
    exact ⟨by omega, same⟩
  · rintro ⟨short, same⟩
    exact ⟨by omega, by omega, same⟩

theorem Layout.scan_strict (layout : Layout) : layout.scan.Strict := by
  induction layout with
  | nothing => exact Scanner.strict_nothing
  | duration => exact scanDuration_strict
  | seq first second ih ih' => exact ih.seq ih'
  | blob form =>
    intro bytes reading small scanned
    simp only [scan, Option.bind_eq_bind, Option.bind_eq_some_iff, Prod.exists, slice_eq_some, Option.some.injEq] at scanned
    obtain ⟨content, rest, ⟨rfl, fits⟩, own, _, rfl⟩ := scanned
    refine ⟨by simp, fun tail => ?_⟩
    rw [lenBytes_append_iff small, notedUnless_eq_nil]
  | nested inner ih =>
    intro bytes reading small scanned
    simp only [scan, Option.bind_eq_bind, Option.bind_eq_some_iff, Prod.exists, slice_eq_some, Option.some.injEq] at scanned
    obtain ⟨content, rest, ⟨rfl, fits⟩, found, scanned, rfl⟩ := scanned
    obtain ⟨_, whole⟩ := ih content found fits scanned
    refine ⟨by simp, fun tail => ?_⟩
    -- the slice is its own rewriting when the scan of it leaves nothing
    have own : found.canonical = content ↔ found.oddities = [] ∧ found.rest = [] := by
      rw [eq_comm (a := found.rest), ← whole [], List.append_nil]
    rw [lenBytes_append_iff small, own, List.append_eq_nil_iff, notedUnless_eq_nil]
  | flag =>
    intro bytes reading _ scanned
    simp only [scan, Option.bind_eq_bind, Option.bind_eq_some_iff, Prod.exists, number_eq_some,
      Option.ite_none_right_eq_some, Option.some.injEq] at scanned
    obtain ⟨n, rest, ⟨rfl, _⟩, _, rfl⟩ := scanned
    exact ⟨by simp, fun tail => by simp⟩
  | option inner ih =>
    intro bytes reading small scanned
    simp only [scan, Option.bind_eq_bind, Option.bind_eq_some_iff, Prod.exists, number_eq_some] at scanned
    obtain ⟨n, rest, ⟨rfl, _⟩, scanned⟩ := scanned
    match n with
    | 0 =>
      cases scanned
      exact ⟨by simp, fun tail => by simp⟩
    | 1 =>
      obtain ⟨found, inside, rfl⟩ := Option.map_eq_some_iff.mp scanned
      rw [List.length_append] at small
      obtain ⟨shorter, whole⟩ := ih rest found (by omega) inside
      exact ⟨Nat.le_trans shorter (by simp), fun tail => Reading.after_iff.trans (whole tail)⟩
    | _ + 2 => cases scanned
  | vector size inner ih =>
    intro bytes reading small scanned
    simp only [scan, Option.bind_eq_bind, Option.bind_eq_some_iff, Prod.exists, number_eq_some,
      Option.map_eq_some_iff] at scanned
    obtain ⟨count, rest, ⟨rfl, _⟩, found, scanned, rfl⟩ := scanned
    rw [List.length_append] at small
    obtain ⟨shorter, whole⟩ := ih.repeated count rest found (by omega) scanned
    exact ⟨Nat.le_trans shorter (by simp), fun tail => Reading.after_iff.trans (whole tail)⟩

/-- Bytes in which nothing is odd are their own rewriting, and no others are. -/
theorem Layout.canonical_eq_iff {layout : Layout} {bytes : Bytes} {reading : Reading} (small : bytes.length < 2 ^ 64)
    (scanned : layout.scan bytes = some reading) : reading.canonical = bytes ↔ layout.oddities bytes = [] := by
  have whole := (layout.scan_strict bytes reading small scanned).2 []
  rw [List.append_nil] at whole
  rw [whole, oddities, scanned, List.append_eq_nil_iff, notedUnless_eq_nil, eq_comm (a := reading.rest)]

end Strictness

section Scans
variable {β γ : Type}

theorem reader_bind_eq_ok {reader : Reader β} {next : β → Reader γ} {bytes rest : Bytes} {result : γ} :
    (reader >>= next) bytes = .ok (result, rest) ↔
      ∃ value middle, reader bytes = .ok (value, middle) ∧ next value middle = .ok (result, rest) := by
  have step : (reader >>= next) bytes = (reader bytes >>= fun pair => next pair.1 pair.2) := rfl
  rw [step, bind_eq_ok, Prod.exists]

theorem reader_pure_eq_ok {value result : β} {bytes rest : Bytes} :
    (pure value : Reader β) bytes = .ok (result, rest) ↔ value = result ∧ bytes = rest := by
  change Except.ok (value, bytes) = _ ↔ _
  rw [Except.ok.injEq, Prod.mk.injEq]

theorem reader_lift_eq_ok {outcome : Outcome β} {result : β} {bytes rest : Bytes} :
    (liftM outcome : Reader β) bytes = .ok (result, rest) ↔ outcome = .ok result ∧ bytes = rest := by
  cases outcome with
  | error fault =>
    change Except.error fault = _ ↔ _
    simp
  | ok value =>
    change Except.ok (value, bytes) = _ ↔ _
    simp

theorem reader_map_eq_ok {reader : Reader β} {f : β → γ} {bytes rest : Bytes} {result : γ} :
    (f <$> reader) bytes = .ok (result, rest) ↔ ∃ value, reader bytes = .ok (value, rest) ∧ f value = result := by
  have step : (f <$> reader) bytes = (reader bytes >>= fun pair => Except.ok (f pair.1, pair.2)) := rfl
  rw [step, bind_eq_ok, Prod.exists]
  constructor
  · rintro ⟨value, middle, reads, same⟩
    cases same
    exact ⟨value, reads, rfl⟩
  · rintro ⟨value, reads, rfl⟩
    exact ⟨value, rest, reads, rfl⟩

theorem take_eq_ok {count : Nat} {message : String} {bytes front rest : Bytes} :
    take count message bytes = .ok (front, rest) ↔ cut count bytes = some (front, rest) := by
  unfold take cut
  split
  · simp [bail]
  · simp

theorem decode_eq_ok {reader : Reader β} {bytes : Bytes} {value : β} :
    decode reader bytes = .ok value ↔ ∃ rest, reader bytes = .ok (value, rest) := by
  rw [decode, map_eq_ok, Prod.exists]
  constructor
  · rintro ⟨_, rest, reads, rfl⟩
    exact ⟨rest, reads⟩
  · rintro ⟨rest, reads⟩
    exact ⟨value, rest, reads, rfl⟩

/-- The scan finds fields whose own spelling is what is written, and stops in front of the rest. -/
def Layout.Finds (layout : Layout) (bytes written rest : Bytes) : Prop :=
  ∃ noted, layout.scan bytes = some ⟨written, rest, noted⟩

theorem Layout.Finds.nil (bytes : Bytes) : (Layout.fields []).Finds bytes [] bytes := ⟨[], rfl⟩

theorem Layout.Finds.cons {layout : Layout} {layouts : List Layout} {bytes written middle written' rest : Bytes}
    (finds : layout.Finds bytes written middle) (finds' : (Layout.fields layouts).Finds middle written' rest) :
    (Layout.fields (layout :: layouts)).Finds bytes (written ++ written') rest := by
  obtain ⟨noted, scanned⟩ := finds
  obtain ⟨noted', scanned'⟩ := finds'
  refine ⟨noted ++ noted', ?_⟩
  simp only [fields, scan, Scanner.seq, scanned, scanned', Option.bind_eq_bind, Option.bind_some, Reading.append]

/-- What the reader accepts has the layout, and the writer writes it in its own spelling. -/
def Layout.Scans (layout : Layout) (reader : Reader β) (write : β → Bytes) : Prop :=
  ∀ bytes value rest, reader bytes = .ok (value, rest) → layout.Finds bytes (write value) rest

theorem Layout.Scans.repeated {layout : Layout} {reader : Reader β} {write : β → Bytes}
    (scans : layout.Scans reader write) {count : Nat} {bytes rest : Bytes} {values : List β}
    (reads : replicate reader count bytes = .ok (values, rest)) :
    values.length = count ∧
      ∃ noted, Scanner.repeated layout.scan count bytes = some ⟨values.flatMap write, rest, noted⟩ := by
  induction count generalizing bytes values with
  | zero =>
    obtain ⟨rfl, rfl⟩ := reader_pure_eq_ok.mp reads
    exact ⟨rfl, [], rfl⟩
  | succ count ih =>
    simp only [replicate, reader_bind_eq_ok, reader_pure_eq_ok] at reads
    obtain ⟨value, middle, first, others, _, later, rfl, rfl⟩ := reads
    obtain ⟨noted, scanned⟩ := scans _ _ _ first
    obtain ⟨rfl, noted', scanned'⟩ := ih later
    refine ⟨rfl, noted ++ noted', ?_⟩
    simp only [Scanner.repeated, Scanner.seq, scanned, scanned', Option.bind_eq_bind, Option.bind_some, Reading.append,
      List.flatMap_cons]

end Scans

end Wire
