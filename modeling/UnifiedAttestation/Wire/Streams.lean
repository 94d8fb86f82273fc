import Mathlib.Data.List.Basic

/-! Streams that arrive in chunks, and what can be read from them however they are cut.

A read that needs more than the first chunk takes it whole and goes on; the end of the chunks
is the end of the stream.
-/

set_option autoImplicit false

namespace Wire

section Chunks
variable {α β ε : Type}

/-- Exactly `count` elements, or nothing when the stream ends before. -/
def readExact : Nat → List (List α) → Option (List α × List (List α))
  | 0, chunks => some ([], chunks)
  | _ + 1, [] => none
  | count + 1, chunk :: chunks =>
    if count + 1 < chunk.length then some (chunk.take (count + 1), chunk.drop (count + 1) :: chunks)
    else (readExact (count + 1 - chunk.length) chunks).map fun parts => (chunk ++ parts.1, parts.2)

/-- Only the elements matter, not the chunks they come in. -/
theorem readExact_flatten (count : Nat) (chunks : List (List α)) :
    (readExact count chunks).map (fun parts => (parts.1, parts.2.flatten)) =
      if chunks.flatten.length < count then none else some (chunks.flatten.take count, chunks.flatten.drop count) := by
  induction chunks generalizing count with
  | nil => cases count <;> simp [readExact]
  | cons chunk chunks ih =>
    cases count with
    | zero => simp [readExact]
    | succ count =>
      rw [readExact, List.flatten_cons, List.length_append]
      split
      · next inside =>
        have enough : ¬ chunk.length + chunks.flatten.length < count + 1 := by omega
        rw [if_neg enough, List.take_append_of_le_length (by omega), List.drop_append_of_le_length (by omega)]
        rfl
      · next whole =>
        have later := ih (count + 1 - chunk.length)
        have cut : (chunks.flatten.length < count + 1 - chunk.length) ↔
            chunk.length + chunks.flatten.length < count + 1 := by omega
        rw [Option.map_map]
        simp only [cut] at later
        split at later
        · next short =>
          rw [if_pos short, Option.map_eq_none_iff.mp later]
          rfl
        · next enough =>
          obtain ⟨parts, read, same⟩ := Option.map_eq_some_iff.mp later
          obtain ⟨front, back⟩ := Prod.mk.inj same
          rw [if_neg enough, read, List.take_append, List.drop_append, List.take_of_length_le (by omega),
            List.drop_of_length_le (by omega), List.nil_append, ← front, ← back]
          rfl

theorem readExact_append {chunks : List (List α)} {items rest : List α} (arrives : chunks.flatten = items ++ rest) :
    ∃ chunks', readExact items.length chunks = some (items, chunks') ∧ chunks'.flatten = rest := by
  have read := readExact_flatten items.length chunks
  rw [arrives, if_neg (by simp), List.take_left, List.drop_left] at read
  obtain ⟨parts, found, same⟩ := Option.map_eq_some_iff.mp read
  obtain ⟨front, back⟩ := Prod.mk.inj same
  exact ⟨parts.2, by rw [found, ← front], back⟩

theorem readExact_short {chunks : List (List α)} {count : Nat} (short : chunks.flatten.length < count) :
    readExact count chunks = none := by
  have read := readExact_flatten count chunks
  rw [if_pos short] at read
  exact Option.map_eq_none_iff.mp read

/-- The results of so many reads one after another; a failure is the last one. -/
def repeatedly (read : List (List α) → Except ε (β × List (List α))) : Nat → List (List α) → List (Except ε β)
  | 0, _ => []
  | count + 1, chunks =>
    match read chunks with
    | .ok (value, chunks) => .ok value :: repeatedly read count chunks
    | .error error => [.error error]

/-- The reader finds the value in front of whatever follows, however it is chunked. -/
def ReadsChunked (read : List (List α) → Except ε (β × List (List α))) (items : List α) (value : β) : Prop :=
  ∀ chunks rest, chunks.flatten = items ++ rest → ∃ chunks', read chunks = .ok (value, chunks') ∧ chunks'.flatten = rest

/-- Values written one behind the other are read one after another, and the first failure is
where they end. -/
theorem repeatedly_reads {read : List (List α) → Except ε (β × List (List α))} {write : β → List α} {values : List β}
    {part : List α} (each : ∀ value ∈ values, ReadsChunked read (write value) value)
    (stops : ∀ chunks, chunks.flatten = part → ∃ error, read chunks = .error error) {chunks : List (List α)}
    (arrives : chunks.flatten = values.flatMap write ++ part) (count : Nat) :
    ∃ error, repeatedly read count chunks =
      (values.take count).map .ok ++ if values.length < count then [.error error] else [] := by
  induction values generalizing chunks count with
  | nil =>
    obtain ⟨error, failed⟩ := stops chunks arrives
    refine ⟨error, ?_⟩
    cases count with
    | zero => rfl
    | succ count => simp [repeatedly, failed]
  | cons value values ih =>
    obtain ⟨error, later⟩ := stops [part] (by simp)
    cases count with
    | zero => exact ⟨error, rfl⟩
    | succ count =>
      rw [List.flatMap_cons, List.append_assoc] at arrives
      obtain ⟨chunks', found, arrives'⟩ := each value (by simp) chunks _ arrives
      obtain ⟨error, others⟩ := ih (fun other held => each other (by simp [held])) arrives' count
      refine ⟨error, ?_⟩
      simp only [repeatedly, found, others, List.take_succ_cons, List.map_cons, List.cons_append, List.length_cons,
        Nat.add_lt_add_iff_right]

end Chunks

end Wire
