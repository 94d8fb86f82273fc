import UnifiedAttestation.Wire.Layout

/-! Readers that count the memory they ask for, and what the bytes claim.

`Layout.claims` lists what a reader meets on its way: for each length prefix the memory it
asks for and the bytes that follow it, for each duration its seconds after the carry. A
metered reader panics exactly at a claim that does not fit, and has asked for the sum of the
claims otherwise.
-/

set_option autoImplicit false

namespace Wire

section Metered

/-- The bytes that are left, and the memory asked for so far. -/
structure Tally where
  rest : Bytes
  allocated : Nat

/-- A reader that counts. What was asked for is also known after a failure. -/
abbrev Metered (β : Type) := ExceptT Fault (StateM Tally) β

namespace Metered
variable {β : Type}

def take (count : Nat) (message : String) : Metered Bytes := fun tally =>
  if tally.rest.length < count then (bail message, tally)
  else (.ok (tally.rest.take count), { tally with rest := tally.rest.drop count })

/-- Ask for memory; above the limit of the address space this panics. -/
def allocate (limit size : Nat) : Metered Unit := fun tally =>
  if size ≤ limit then (.ok (), { tally with allocated := tally.allocated + size }) else (.error .panic, tally)

def replicate (reader : Metered β) : Nat → Metered (List β)
  | 0 => pure []
  | count + 1 => do
    let value ← reader
    let values ← replicate reader count
    pure (value :: values)

def number (count : Nat) (message : String) : Metered Nat := fromBytesBe <$> take count message

/-- Read other bytes from their start; what they leave is ignored. -/
def within (content : Bytes) (reader : Metered β) : Metered β := fun tally =>
  let (outcome, inner) := reader ⟨content, tally.allocated⟩
  (outcome, { tally with allocated := inner.allocated })

section Binding
variable {γ : Type} {metered : Metered β} {next : β → Metered γ} {tally tally' : Tally}

theorem bind_ok {value : β} (ran : metered tally = (.ok value, tally')) : (metered >>= next) tally = next value tally' := by
  simp only [bind, ExceptT.bind, ExceptT.mk, StateT.bind, ran, ExceptT.bindCont]

theorem bind_error {fault : Fault} (ran : metered tally = (.error fault, tally')) :
    (metered >>= next) tally = (.error fault, tally') := by
  simp only [bind, ExceptT.bind, ExceptT.mk, StateT.bind, ran, ExceptT.bindCont]
  rfl

end Binding

end Metered

end Metered

section Claims

/-- What a reader finds claimed: memory, with the bytes that follow, or seconds. -/
inductive Claim where
  | memory (size available : Nat)
  | seconds (count : Nat)
  deriving DecidableEq, Repr

def Claim.Fits (limit : Nat) : Claim → Prop
  | .memory size _ => size ≤ limit
  | .seconds count => count < 2 ^ 64

def Claim.size : Claim → Nat
  | .memory size _ => size
  | .seconds _ => 0

def total (claims : List Claim) : Nat := (claims.map Claim.size).sum

def AllFit (limit : Nat) (claims : List Claim) : Prop := ∀ claim ∈ claims, claim.Fits limit

@[simp] theorem total_nil : total [] = 0 := rfl

@[simp] theorem total_cons (claim : Claim) (claims : List Claim) : total (claim :: claims) = claim.size + total claims := by
  simp [total]

@[simp] theorem total_append (first second : List Claim) : total (first ++ second) = total first + total second := by
  simp [total]

@[simp] theorem allFit_nil (limit : Nat) : AllFit limit [] := by simp [AllFit]

@[simp] theorem allFit_cons (limit : Nat) (claim : Claim) (claims : List Claim) :
    AllFit limit (claim :: claims) ↔ claim.Fits limit ∧ AllFit limit claims := by
  simp [AllFit]

@[simp] theorem allFit_append (limit : Nat) (first second : List Claim) :
    AllFit limit (first ++ second) ↔ AllFit limit first ∧ AllFit limit second := by
  simp only [AllFit, List.mem_append]
  exact ⟨fun all => ⟨fun c held => all c (.inl held), fun c held => all c (.inr held)⟩,
    fun all c held => held.elim (all.1 c) (all.2 c)⟩

abbrev Claimer := Bytes → List Claim

/-- The claims of one part and, if that part is there, of what follows it. -/
def Claimer.seq (first : Claimer) (scan : Scanner) (second : Claimer) : Claimer := fun bytes =>
  first bytes ++ match scan bytes with
    | some reading => second reading.rest
    | none => []

def Claimer.repeated (claims : Claimer) (scan : Scanner) : Nat → Claimer
  | 0 => fun _ => []
  | count + 1 => claims.seq scan (claims.repeated scan count)

@[simp] def Layout.claims : Layout → Claimer
  | .nothing | .flag => fun _ => []
  | .blob _ => fun bytes =>
    match number 8 bytes with
    | some (len, rest) => [.memory len rest.length]
    | none => []
  | .nested inner => fun bytes =>
    match number 8 bytes with
    | some (len, rest) => .memory len rest.length :: match cut len rest with
      | some (content, _) => inner.claims content
      | none => []
    | none => []
  | .duration => fun bytes =>
    match number 8 bytes with
    | some (secs, rest) => match number 4 rest with
      | some (nanos, _) => [.seconds (secs + nanos / 10 ^ 9)]
      | none => []
    | none => []
  | .option inner => fun bytes =>
    match number 1 bytes with
    | some (1, rest) => inner.claims rest
    | _ => []
  | .vector size inner => fun bytes =>
    match number 8 bytes with
    | some (count, rest) => .memory (size * count) rest.length :: Claimer.repeated inner.claims inner.scan count rest
    | none => []
  | .seq first second => Claimer.seq first.claims first.scan second.claims

end Claims

section Meters
variable {β γ : Type} {limit : Nat}

/-- The metered reader does what the reader does. It panics where a claim does not fit, and
otherwise has asked for what was claimed. -/
def Meters (limit : Nat) (metered : Metered β) (reader : Reader β) (scan : Scanner) (claims : Claimer) : Prop :=
  ∀ bytes allocated,
    match reader bytes with
    | .ok (value, rest) => AllFit limit (claims bytes) ∧ (∃ reading, scan bytes = some reading ∧ reading.rest = rest) ∧
        metered ⟨bytes, allocated⟩ = (.ok value, ⟨rest, allocated + total (claims bytes)⟩)
    | .error (.error chain) => AllFit limit (claims bytes) ∧ scan bytes = none ∧ ∃ rest,
        metered ⟨bytes, allocated⟩ = (.error (.error chain), ⟨rest, allocated + total (claims bytes)⟩)
    | .error .panic => ¬ AllFit limit (claims bytes) ∧ ∃ tally, metered ⟨bytes, allocated⟩ = (.error .panic, tally)

/-- The scan stops where the reader stops. -/
theorem Meters.stops {metered : Metered β} {reader : Reader β} {scan : Scanner} {claims : Claimer}
    (meters : Meters limit metered reader scan claims) (bytes : Bytes) (fit : AllFit limit (claims bytes)) :
    (scan bytes).map Reading.rest = (reader bytes).toOption.map Prod.snd := by
  have whole := meters bytes 0
  cases read : reader bytes with
  | error fault =>
    rw [read] at whole
    cases fault with
    | error chain => rw [whole.2.1]; rfl
    | panic => exact absurd fit whole.1
  | ok pair =>
    rw [read] at whole
    obtain ⟨_, ⟨reading, scanned, same⟩, _⟩ := whole
    rw [scanned, Option.map_some, same]
    rfl

/-- Only where a scan stops matters, and what is claimed up to the first claim that does not fit. -/
theorem Meters.congr {metered : Metered β} {reader : Reader β} {scan scan' : Scanner} {claims claims' : Claimer}
    (meters : Meters limit metered reader scan claims)
    (unfit : ∀ bytes, ¬ AllFit limit (claims bytes) → ¬ AllFit limit (claims' bytes))
    (same : ∀ bytes, AllFit limit (claims bytes) →
      claims' bytes = claims bytes ∧ (scan' bytes).map Reading.rest = (scan bytes).map Reading.rest) :
    Meters limit metered reader scan' claims' := by
  intro bytes allocated
  have whole := meters bytes allocated
  cases read : reader bytes with
  | error fault =>
    rw [read] at whole
    cases fault with
    | error chain =>
      obtain ⟨fit, unscanned, ran⟩ := whole
      obtain ⟨claimed, stops⟩ := same bytes fit
      rw [unscanned, Option.map_none, Option.map_eq_none_iff] at stops
      exact ⟨claimed ▸ fit, stops, claimed ▸ ran⟩
    | panic => exact ⟨unfit bytes whole.1, whole.2⟩
  | ok pair =>
    rw [read] at whole
    obtain ⟨fit, ⟨reading, scanned, rests⟩, ran⟩ := whole
    obtain ⟨claimed, stops⟩ := same bytes fit
    rw [scanned, Option.map_some, rests, Option.map_eq_some_iff] at stops
    exact ⟨claimed ▸ fit, stops, claimed ▸ ran⟩

theorem Meters.respell {metered : Metered β} {reader : Reader β} {scan scan' : Scanner} {claims claims' : Claimer}
    (meters : Meters limit metered reader scan claims) (claimed : ∀ bytes, claims' bytes = claims bytes)
    (stops : ∀ bytes, (scan' bytes).map Reading.rest = (scan bytes).map Reading.rest) :
    Meters limit metered reader scan' claims' := by
  refine meters.congr ?_ fun bytes _ => ⟨claimed bytes, stops bytes⟩
  intro bytes unfit
  rwa [claimed]

theorem Meters.pure (value : β) : Meters limit (pure value) (pure value) (Layout.scan .nothing) fun _ => [] := by
  intro bytes allocated
  exact ⟨allFit_nil limit, ⟨_, rfl, rfl⟩, rfl⟩

/-- A conversion that does not panic and reads nothing. -/
theorem Meters.lift {outcome : Outcome β} (calm : outcome ≠ .error .panic) :
    Meters limit (liftM outcome) (liftM outcome) (fun bytes => outcome.toOption.map fun _ => ⟨[], bytes, []⟩)
      fun _ => [] := by
  intro bytes allocated
  cases outcome with
  | error fault =>
    cases fault with
    | error chain => exact ⟨allFit_nil limit, rfl, bytes, rfl⟩
    | panic => exact absurd rfl calm
  | ok value => exact ⟨allFit_nil limit, ⟨_, rfl, rfl⟩, rfl⟩

theorem Meters.take (count : Nat) (message : String) :
    Meters limit (Metered.take count message) (take count message)
      (fun bytes => (cut count bytes).map fun parts => ⟨parts.1, parts.2, []⟩) fun _ => [] := by
  intro bytes allocated
  by_cases short : bytes.length < count
  · simp only [Wire.take, Metered.take, cut, if_pos short]
    exact ⟨allFit_nil limit, rfl, bytes, rfl⟩
  · simp only [Wire.take, Metered.take, cut, if_neg short]
    exact ⟨allFit_nil limit, ⟨_, rfl, rfl⟩, rfl⟩

/-- Memory asked for in front of a reader. -/
theorem Meters.allocate {metered : Metered β} {reader : Reader β} {scan : Scanner} {claims : Claimer} (size : Nat)
    (meters : Meters limit metered reader scan claims) :
    Meters limit (do Metered.allocate limit size; metered) (do reserve limit size; reader) scan
      fun bytes => .memory size bytes.length :: claims bytes := by
  intro bytes allocated
  by_cases fits : size ≤ limit
  · have ran : Metered.allocate limit size ⟨bytes, allocated⟩ = (.ok (), ⟨bytes, allocated + size⟩) := by
      simp only [Metered.allocate, if_pos fits]
    have reserved : (do reserve limit size; reader : Reader β) bytes = reader bytes := by
      rw [reserve_ok fits]
      rfl
    have whole := meters bytes (allocated + size)
    rw [reserved, Metered.bind_ok ran]
    have claimed : total (.memory size bytes.length :: claims bytes) = size + total (claims bytes) := total_cons _ _
    rw [claimed, allFit_cons, ← Nat.add_assoc]
    have own : (Claim.memory size bytes.length).Fits limit := fits
    simpa only [own, true_and] using whole
  · have ran : Metered.allocate limit size ⟨bytes, allocated⟩ = (.error .panic, ⟨bytes, allocated⟩) := by
      simp only [Metered.allocate, if_neg fits]
    have reserved : (do reserve limit size; reader : Reader β) bytes = .error .panic := by
      rw [reserve, if_neg fits]
      rfl
    rw [reserved]
    exact ⟨fun fit => fits ((allFit_cons limit _ _).mp fit).1, _, Metered.bind_error ran⟩

/-- Bytes read from their start by a reader of their own. -/
theorem Meters.within {metered : Metered β} {reader : Reader β} {scan : Scanner} {claims : Claimer} (content : Bytes)
    (meters : Meters limit metered reader scan claims) :
    Meters limit (Metered.within content metered) (liftM (decode reader content))
      (fun bytes => (scan content).map fun _ => ⟨[], bytes, []⟩) fun _ => claims content := by
  intro bytes allocated
  have whole := meters content allocated
  cases read : reader content with
  | error fault =>
    rw [read] at whole
    have same : (liftM (decode reader content) : Reader β) bytes = .error fault := by
      rw [decode, read]
      rfl
    rw [same]
    cases fault with
    | error chain =>
      obtain ⟨fit, unscanned, rest, ran⟩ := whole
      exact ⟨fit, by simp only [unscanned, Option.map_none], bytes, by simp only [Metered.within, ran]⟩
    | panic =>
      obtain ⟨unfit, tally, ran⟩ := whole
      exact ⟨unfit, ⟨bytes, tally.allocated⟩, by simp only [Metered.within, ran]⟩
  | ok pair =>
    rw [read] at whole
    have same : (liftM (decode reader content) : Reader β) bytes = .ok (pair.1, bytes) := by
      rw [decode, read]
      rfl
    rw [same]
    obtain ⟨fit, ⟨reading, scanned, _⟩, ran⟩ := whole
    exact ⟨fit, ⟨⟨[], bytes, []⟩, by simp only [scanned, Option.map_some], rfl⟩, by simp only [Metered.within, ran]⟩

/-- One reader after another, where the second one depends on what the first one read. -/
theorem Meters.bind {metered : Metered β} {reader : Reader β} {next : β → Metered γ} {next' : β → Reader γ}
    {scan : Scanner} {scan' : β → Scanner} {claims : Claimer} {claims' : β → Claimer}
    (meters : Meters limit metered reader scan claims)
    (meters' : ∀ value, Meters limit (next value) (next' value) (scan' value) (claims' value)) :
    Meters limit (metered >>= next) (reader >>= next')
      (fun bytes => (reader bytes).toOption.bind fun pair => scan' pair.1 pair.2)
      (fun bytes => claims bytes ++ ((reader bytes).toOption.elim [] fun pair => claims' pair.1 pair.2)) := by
  intro bytes allocated
  have first := meters bytes allocated
  have unfolded : (reader >>= next') bytes = (reader bytes >>= fun pair => next' pair.1 pair.2) := rfl
  simp only [unfolded]
  cases read : reader bytes with
  | error fault =>
    rw [read] at first
    simp only [Except.toOption, Option.bind_none, Option.elim_none, List.append_nil]
    cases fault with
    | error chain =>
      obtain ⟨fit, unscanned, rest, ran⟩ := first
      exact ⟨fit, trivial, rest, Metered.bind_error ran⟩
    | panic =>
      obtain ⟨unfit, tally, ran⟩ := first
      exact ⟨unfit, tally, Metered.bind_error ran⟩
  | ok pair =>
    obtain ⟨value, rest⟩ := pair
    rw [read] at first
    obtain ⟨fit, _, ran⟩ := first
    have second := meters' value rest (allocated + total (claims bytes))
    simp only [Except.toOption, Option.bind_some, Option.elim_some, allFit_append, total_append, Metered.bind_ok ran,
      ← Nat.add_assoc, Wire.ok_bind]
    cases read' : next' value rest with
    | error fault =>
      rw [read'] at second
      cases fault with
      | error chain =>
        obtain ⟨fit', unscanned, ran'⟩ := second
        exact ⟨⟨fit, fit'⟩, unscanned, ran'⟩
      | panic =>
        obtain ⟨unfit, ran'⟩ := second
        exact ⟨fun both => unfit both.2, ran'⟩
    | ok pair' =>
      rw [read'] at second
      obtain ⟨fit', scanned, ran'⟩ := second
      exact ⟨⟨fit, fit'⟩, scanned, ran'⟩

theorem Meters.seq {metered : Metered β} {reader : Reader β} {next : β → Metered γ} {next' : β → Reader γ}
    {scan scan' : Scanner} {claims claims' : Claimer} (meters : Meters limit metered reader scan claims)
    (meters' : ∀ value, Meters limit (next value) (next' value) scan' claims') :
    Meters limit (metered >>= next) (reader >>= next') (scan.seq scan') (claims.seq scan claims') := by
  have stepped : ∀ bytes, AllFit limit (claims bytes) →
      claims.seq scan claims' bytes =
          claims bytes ++ ((reader bytes).toOption.elim [] fun pair => claims' pair.2) ∧
        (scan.seq scan' bytes).map Reading.rest =
          ((reader bytes).toOption.bind fun pair => scan' pair.2).map Reading.rest := by
    intro bytes fit
    have stops := meters.stops bytes fit
    cases scanned : scan bytes with
    | none =>
      rw [scanned, Option.map_none, eq_comm, Option.map_eq_none_iff] at stops
      simp only [Claimer.seq, Scanner.seq, scanned, stops, Option.elim_none, Option.bind_none, Option.bind_eq_bind,
        and_self]
    | some reading =>
      rw [scanned, Option.map_some, eq_comm, Option.map_eq_some_iff] at stops
      obtain ⟨pair, read, same⟩ := stops
      simp only [Claimer.seq, Scanner.seq, scanned, read, same, Option.elim_some, Option.bind_some, Option.bind_eq_bind]
      refine ⟨trivial, ?_⟩
      cases scan' reading.rest <;> rfl
  refine (meters.bind meters').congr ?_ ?_
  · intro bytes unfit fit
    have first : AllFit limit (claims bytes) := ((allFit_append limit _ _).mp fit).1
    rw [(stepped bytes first).1] at fit
    exact unfit fit
  · intro bytes fit
    exact stepped bytes ((allFit_append limit _ _).mp fit).1

theorem Scanner.seq_nothing (scan : Scanner) : scan.seq (Layout.scan .nothing) = scan := by
  funext bytes
  simp only [seq, Layout.scan, Option.bind_eq_bind, Option.bind_some, Reading.append, List.append_nil]
  cases scan bytes <;> rfl

theorem Claimer.seq_nothing (claims : Claimer) (scan : Scanner) : claims.seq scan (fun _ => []) = claims := by
  funext bytes
  simp only [seq]
  cases scan bytes <;> exact List.append_nil _

/-- A value built at the end of a reader. -/
theorem Meters.map {metered : Metered β} {reader : Reader β} {scan : Scanner} {claims : Claimer} (f : β → γ)
    (meters : Meters limit metered reader scan claims) :
    Meters limit (do let value ← metered; Pure.pure (f value)) (do let value ← reader; Pure.pure (f value)) scan
      claims := by
  have whole := meters.seq fun value => @Meters.pure γ limit (f value)
  rwa [Scanner.seq_nothing, Claimer.seq_nothing] at whole

theorem Meters.repeated {metered : Metered β} {reader : Reader β} {scan : Scanner} {claims : Claimer}
    (meters : Meters limit metered reader scan claims) (count : Nat) :
    Meters limit (metered.replicate count) (replicate reader count) (scan.repeated count)
      (claims.repeated scan count) := by
  induction count with
  | zero => exact Meters.pure []
  | succ count ih => exact meters.seq fun value => ih.map (value :: ·)

end Meters

section Backing
variable {factor : Nat}

/-- The memory is at most `factor` times the bytes that follow. -/
def Claim.Backed (factor : Nat) : Claim → Prop
  | .memory size available => size ≤ factor * available
  | .seconds count => count < 2 ^ 64

def AllBacked (factor : Nat) (claims : List Claim) : Prop := ∀ claim ∈ claims, claim.Backed factor

theorem allBacked_cons (claim : Claim) (claims : List Claim) :
    AllBacked factor (claim :: claims) ↔ claim.Backed factor ∧ AllBacked factor claims := by
  simp [AllBacked]

theorem allBacked_append (first second : List Claim) :
    AllBacked factor (first ++ second) ↔ AllBacked factor first ∧ AllBacked factor second := by
  simp only [AllBacked, List.mem_append]
  exact ⟨fun all => ⟨fun c held => all c (.inl held), fun c held => all c (.inr held)⟩,
    fun all c held => held.elim (all.1 c) (all.2 c)⟩

/-- The fewest bytes a part takes. -/
def Layout.least : Layout → Nat
  | .nothing => 0
  | .blob _ => 8
  | .nested _ => 8
  | .duration => 12
  | .flag => 1
  | .option _ => 1
  | .vector _ _ => 8
  | .seq first second => first.least + second.least

/-- The elements of vectors take bytes. -/
def Layout.Solid : Layout → Prop
  | .nothing | .blob _ | .duration | .flag => True
  | .nested inner => inner.Solid
  | .option inner => inner.Solid
  | .vector _ inner => 0 < inner.least ∧ inner.Solid
  | .seq first second => first.Solid ∧ second.Solid

/-- How much memory a byte of the layout may ask for when claims are backed. -/
def Layout.weight (factor : Nat) : Layout → Nat
  | .nothing | .duration | .flag => 0
  | .blob _ => factor
  | .nested inner => factor + inner.weight factor
  | .option inner => inner.weight factor
  | .vector size inner => factor + size + inner.weight factor
  | .seq first second => first.weight factor + second.weight factor

theorem number_length {count n : Nat} {bytes rest : Bytes} (read : number count bytes = some (n, rest)) :
    bytes.length = count + rest.length := by
  rw [(number_eq_some.mp read).1, List.length_append, toBeBytes_length]

theorem cut_length {count : Nat} {bytes front rest : Bytes} (read : cut count bytes = some (front, rest)) :
    bytes.length = count + rest.length ∧ front.length = count := by
  obtain ⟨rfl, rfl⟩ := cut_eq_some.mp read
  exact ⟨List.length_append, rfl⟩

/-- A scanner that takes at least so many bytes. -/
def Scanner.Takes (scan : Scanner) (least : Nat) : Prop :=
  ∀ bytes reading, scan bytes = some reading → reading.rest.length + least ≤ bytes.length

theorem Scanner.Takes.seq {first second : Scanner} {least least' : Nat} (takes : first.Takes least)
    (takes' : second.Takes least') : (Scanner.seq first second).Takes (least + least') := by
  intro bytes reading scanned
  simp only [Scanner.seq, Option.bind_eq_bind, Option.bind_eq_some_iff, Option.some.injEq] at scanned
  obtain ⟨front, scanFront, back, scanBack, rfl⟩ := scanned
  have shorter := takes bytes front scanFront
  have shorter' := takes' front.rest back scanBack
  simp only [Reading.append]
  omega

theorem Scanner.Takes.repeated {scan : Scanner} {least : Nat} (takes : scan.Takes least) (count : Nat) :
    (scan.repeated count).Takes (count * least) := by
  induction count with
  | zero =>
    intro bytes reading scanned
    cases scanned
    rw [Nat.zero_mul]
    exact Nat.le_refl _
  | succ count ih =>
    rw [Nat.succ_mul, Nat.add_comm (count * least)]
    exact takes.seq ih

theorem Layout.scan_takes (layout : Layout) : layout.scan.Takes layout.least := by
  induction layout with
  | nothing =>
    intro bytes reading scanned
    cases scanned
    exact Nat.le_refl _
  | seq first second ih ih' => exact ih.seq ih'
  | blob form =>
    intro bytes reading scanned
    simp only [scan, slice, Option.bind_eq_bind, Option.bind_eq_some_iff, Option.some.injEq, Prod.exists] at scanned
    obtain ⟨content, rest, ⟨len, middle, read, parts⟩, own, _, rfl⟩ := scanned
    have whole := number_length read
    have inner := cut_length parts
    simp only [least]
    omega
  | nested inner ih =>
    intro bytes reading scanned
    simp only [scan, slice, Option.bind_eq_bind, Option.bind_eq_some_iff, Option.some.injEq, Prod.exists] at scanned
    obtain ⟨content, rest, ⟨len, middle, read, parts⟩, found, _, rfl⟩ := scanned
    have whole := number_length read
    have inner := cut_length parts
    simp only [least]
    omega
  | duration =>
    intro bytes reading scanned
    simp only [scan, scanDuration, Option.bind_eq_bind, Option.bind_eq_some_iff, Prod.exists,
      Option.ite_none_right_eq_some, Option.some.injEq] at scanned
    obtain ⟨secs, middle, readSecs, nanos, rest, readNanos, _, rfl⟩ := scanned
    have whole := number_length readSecs
    have inner := number_length readNanos
    simp only [least]
    omega
  | flag =>
    intro bytes reading scanned
    simp only [scan, Option.bind_eq_bind, Option.bind_eq_some_iff, Prod.exists, Option.ite_none_right_eq_some,
      Option.some.injEq] at scanned
    obtain ⟨n, rest, read, _, rfl⟩ := scanned
    have whole := number_length read
    simp only [least]
    omega
  | option inner ih =>
    intro bytes reading scanned
    simp only [scan, Option.bind_eq_bind, Option.bind_eq_some_iff, Prod.exists] at scanned
    obtain ⟨n, rest, read, scanned⟩ := scanned
    have whole := number_length read
    obtain _ | _ | _ := n
    · cases scanned
      simp only [least]
      omega
    · obtain ⟨found, inside, rfl⟩ := Option.map_eq_some_iff.mp scanned
      have shorter := ih rest found inside
      simp only [least, Reading.after]
      omega
    · cases scanned
  | vector size inner ih =>
    intro bytes reading scanned
    simp only [scan, Option.bind_eq_bind, Option.bind_eq_some_iff, Prod.exists, Option.map_eq_some_iff] at scanned
    obtain ⟨count, rest, read, found, inside, rfl⟩ := scanned
    have whole := number_length read
    have shorter := ih.repeated count rest found inside
    simp only [least, Reading.after]
    omega

/-- What is claimed is paid for by the bytes taken, and by all bytes where the claims are backed. -/
def Thrifty (factor : Nat) (scan : Scanner) (claims : Claimer) (weight : Nat) : Prop :=
  ∀ bytes, (∀ reading, scan bytes = some reading →
      total (claims bytes) + weight * reading.rest.length ≤ weight * bytes.length) ∧
    (AllBacked factor (claims bytes) → total (claims bytes) ≤ weight * bytes.length)

theorem Thrifty.nothing (factor weight : Nat) : Thrifty factor (fun bytes => some ⟨[], bytes, []⟩) (fun _ => []) weight := by
  intro bytes
  refine ⟨fun reading scanned => ?_, fun _ => by simp⟩
  cases scanned
  simp

theorem Thrifty.seq {scan scan' : Scanner} {claims claims' : Claimer} {weight weight' : Nat}
    (thrifty : Thrifty factor scan claims weight) (takes : scan.Takes 0)
    (thrifty' : Thrifty factor scan' claims' weight') (takes' : scan'.Takes 0) :
    Thrifty factor (scan.seq scan') (claims.seq scan claims') (weight + weight') := by
  intro bytes
  obtain ⟨paid, backed⟩ := thrifty bytes
  cases scanned : scan bytes with
  | none =>
    refine ⟨fun reading whole => ?_, fun all => ?_⟩
    · simp [Scanner.seq, scanned] at whole
    · simp only [Claimer.seq, scanned, List.append_nil] at all ⊢
      exact Nat.le_trans (backed all) (Nat.mul_le_mul_right _ (Nat.le_add_right _ _))
  | some front =>
    have first := paid front scanned
    have shorter := takes bytes front scanned
    obtain ⟨paid', backed'⟩ := thrifty' front.rest
    have spread : weight' * front.rest.length ≤ weight' * bytes.length := Nat.mul_le_mul_left _ shorter
    simp only [Claimer.seq, scanned, total_append, Nat.add_mul]
    refine ⟨fun reading whole => ?_, fun all => ?_⟩
    · simp only [Scanner.seq, scanned, Option.bind_eq_bind, Option.bind_some, Option.bind_eq_some_iff,
        Option.some.injEq] at whole
      obtain ⟨back, scanned', rfl⟩ := whole
      have second := paid' back scanned'
      have kept : weight * back.rest.length ≤ weight * front.rest.length :=
        Nat.mul_le_mul_left _ (takes' front.rest back scanned')
      simp only [Reading.append]
      omega
    · have second := backed' ((allBacked_append _ _).mp all).2
      omega

theorem Thrifty.repeated {scan : Scanner} {claims : Claimer} {weight : Nat} (thrifty : Thrifty factor scan claims weight)
    (count : Nat) : Thrifty factor (scan.repeated count) (claims.repeated scan count) weight := by
  induction count with
  | zero => exact Thrifty.nothing factor weight
  | succ count ih =>
    intro bytes
    obtain ⟨paid, backed⟩ := thrifty bytes
    cases scanned : scan bytes with
    | none =>
      refine ⟨fun reading whole => ?_, fun all => ?_⟩
      · simp [Scanner.repeated, Scanner.seq, scanned] at whole
      · simp only [Claimer.repeated, Claimer.seq, scanned, List.append_nil] at all ⊢
        exact backed all
    | some front =>
      have first := paid front scanned
      obtain ⟨paid', backed'⟩ := ih front.rest
      simp only [Claimer.repeated, Claimer.seq, scanned, total_append]
      refine ⟨fun reading whole => ?_, fun all => ?_⟩
      · simp only [Scanner.repeated, Scanner.seq, scanned, Option.bind_eq_bind, Option.bind_some,
          Option.bind_eq_some_iff, Option.some.injEq] at whole
        obtain ⟨back, scanned', rfl⟩ := whole
        have second := paid' back scanned'
        simp only [Reading.append]
        omega
      · have second := backed' ((allBacked_append _ _).mp all).2
        omega

variable {inner : Layout}

theorem Thrifty.blob (unit : 1 ≤ factor) (form : Bytes → Option Bytes) :
    Thrifty factor (Layout.blob form).scan (Layout.blob form).claims ((Layout.blob form).weight factor) := by
  intro bytes
  simp only [Layout.weight]
  cases read : number 8 bytes with
  | none =>
    simp only [Layout.scan, slice, Layout.claims, read]
    exact ⟨fun reading scanned => by simp at scanned, fun _ => by simp⟩
  | some parts =>
    obtain ⟨len, rest⟩ := parts
    have whole := number_length read
    simp only [Layout.scan, slice, Layout.claims, read, Option.bind_eq_bind, Option.bind_some, total_cons, Claim.size, total_nil]
    refine ⟨fun reading scanned => ?_, fun all => ?_⟩
    · simp only [Option.bind_eq_some_iff, Prod.exists, Option.some.injEq] at scanned
      obtain ⟨content, left, parts, own, _, rfl⟩ := scanned
      have inner := (cut_length parts).1
      have atLeast : len ≤ factor * len := Nat.le_mul_of_pos_left len unit
      rw [whole, inner, Nat.mul_add, Nat.mul_add]
      simp only
      omega
    · have own : len ≤ factor * rest.length := ((allBacked_cons _ []).mp all).1
      rw [whole, Nat.mul_add]
      omega

/-- The length in front pays for the slice, and what is inside pays for its own claims. -/
theorem Thrifty.nested (unit : 1 ≤ factor) (thrifty : Thrifty factor inner.scan inner.claims (inner.weight factor)) :
    Thrifty factor (Layout.nested inner).scan (Layout.nested inner).claims ((Layout.nested inner).weight factor) := by
  intro bytes
  simp only [Layout.weight]
  cases read : number 8 bytes with
  | none =>
    simp only [Layout.scan, slice, Layout.claims, read]
    exact ⟨fun reading scanned => by simp at scanned, fun _ => by simp⟩
  | some parts =>
    obtain ⟨len, rest⟩ := parts
    have whole := number_length read
    simp only [Layout.scan, slice, Layout.claims, read, Option.bind_eq_bind, Option.bind_some, total_cons, Claim.size]
    cases parts : cut len rest with
    | none =>
      refine ⟨fun reading scanned => by simp at scanned, fun all => ?_⟩
      have own : len ≤ factor * rest.length := ((allBacked_cons _ []).mp all).1
      rw [whole, Nat.mul_add, Nat.add_mul factor _ rest.length, total_nil]
      omega
    | some parts' =>
      obtain ⟨content, left⟩ := parts'
      obtain ⟨inside, length⟩ := cut_length parts
      obtain ⟨paid, backed⟩ := thrifty content
      simp only [Option.bind_some]
      refine ⟨fun reading scanned => ?_, fun all => ?_⟩
      · obtain ⟨found, scanned, same⟩ := Option.bind_eq_some_iff.mp scanned
        have spent := paid found scanned
        have atLeast : len ≤ factor * len := Nat.le_mul_of_pos_left len unit
        cases same
        rw [length] at spent
        rw [whole, inside]
        simp only [Nat.mul_add, Nat.add_mul]
        omega
      · obtain ⟨own, others⟩ := (allBacked_cons _ _).mp all
        have bound : len ≤ factor * rest.length := own
        have spent := backed others
        rw [length] at spent
        rw [inside] at bound
        rw [whole, inside]
        simp only [Nat.mul_add, Nat.add_mul] at bound ⊢
        omega

theorem Thrifty.option (thrifty : Thrifty factor inner.scan inner.claims (inner.weight factor)) :
    Thrifty factor (Layout.option inner).scan (Layout.option inner).claims ((Layout.option inner).weight factor) := by
  intro bytes
  simp only [Layout.weight, Layout.scan, Layout.claims, Option.bind_eq_bind]
  cases read : number 1 bytes with
  | none => exact ⟨fun reading scanned => by simp at scanned, fun _ => by simp⟩
  | some parts =>
    obtain ⟨n, rest⟩ := parts
    have whole := number_length read
    have spread : inner.weight factor * bytes.length = inner.weight factor + inner.weight factor * rest.length := by
      rw [whole, Nat.mul_add, Nat.mul_one]
    simp only [Option.bind_some, spread]
    obtain _ | _ | _ := n
    · refine ⟨fun reading scanned => ?_, fun _ => by simp⟩
      cases scanned
      simp
    · obtain ⟨paid, backed⟩ := thrifty rest
      refine ⟨fun reading scanned => ?_, fun all => ?_⟩
      · obtain ⟨found, inside, rfl⟩ := Option.map_eq_some_iff.mp scanned
        have spent := paid found inside
        simp only [Reading.after]
        omega
      · have spent := backed all
        simp only
        omega
    · exact ⟨fun reading scanned => by simp at scanned, fun _ => by simp⟩

/-- Items that take a byte each pay for the room of the vector. -/
theorem Thrifty.vector (size : Nat) (least : 0 < inner.least)
    (thrifty : Thrifty factor inner.scan inner.claims (inner.weight factor)) :
    Thrifty factor (Layout.vector size inner).scan (Layout.vector size inner).claims
      ((Layout.vector size inner).weight factor) := by
  intro bytes
  simp only [Layout.weight, Layout.scan, Layout.claims, Option.bind_eq_bind]
  cases read : number 8 bytes with
  | none => exact ⟨fun reading scanned => by simp at scanned, fun _ => by simp⟩
  | some parts =>
    obtain ⟨count, rest⟩ := parts
    have whole := number_length read
    obtain ⟨paid, backed⟩ := thrifty.repeated count rest
    simp only [Option.bind_some, total_cons, Claim.size]
    refine ⟨fun reading scanned => ?_, fun all => ?_⟩
    · obtain ⟨found, inside, rfl⟩ := Option.map_eq_some_iff.mp scanned
      have spent := paid found inside
      have taken := inner.scan_takes.repeated count rest found inside
      have each : count ≤ count * inner.least := Nat.le_mul_of_pos_right count least
      have held : size * (count + found.rest.length) ≤ size * rest.length := Nat.mul_le_mul_left _ (by omega)
      have left : factor * found.rest.length ≤ factor * rest.length := Nat.mul_le_mul_left _ (by omega)
      rw [whole]
      simp only [Nat.mul_add, Nat.add_mul, Reading.after] at held ⊢
      omega
    · obtain ⟨own, others⟩ := (allBacked_cons _ _).mp all
      have bound : size * count ≤ factor * rest.length := own
      have spent := backed others
      rw [whole]
      simp only [Nat.mul_add, Nat.add_mul]
      omega

theorem Layout.thrifty {layout : Layout} (solid : layout.Solid) (unit : 1 ≤ factor) :
    Thrifty factor layout.scan layout.claims (layout.weight factor) := by
  induction layout with
  | nothing => exact Thrifty.nothing factor 0
  | seq first second ih ih' =>
    have takes : ∀ layout : Layout, layout.scan.Takes 0 := by
      intro layout bytes reading scanned
      have shorter := layout.scan_takes bytes reading scanned
      omega
    exact (ih solid.1).seq (takes first) (ih' solid.2) (takes second)
  | blob form => exact Thrifty.blob unit form
  | nested inner ih => exact (ih solid).nested unit
  | duration =>
    intro bytes
    have free : total (Layout.duration.claims bytes) = 0 := by
      simp only [claims]
      cases number 8 bytes with
      | none => rfl
      | some parts =>
        simp only
        cases number 4 parts.2 <;> rfl
    simp only [free, weight, Nat.zero_mul, Nat.add_zero, Nat.le_refl, implies_true, and_self]
  | flag =>
    intro bytes
    simp only [claims, total_nil, weight, Nat.zero_mul, Nat.add_zero, Nat.le_refl, implies_true, and_self]
  | option inner ih => exact (ih solid).option
  | vector size inner ih => exact (ih solid.2).vector size solid.1

end Backing

end Wire
