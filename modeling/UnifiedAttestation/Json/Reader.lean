import UnifiedAttestation.Json.Value

/-! A reader of the compact texts that `Value.render` gives, for values without floats.

It takes no blanks and keeps the members of an object as they are written. What it
reads of a printed value is that value, so it makes a library of its own.
-/

set_option autoImplicit false

namespace Json

open Wire (utf8 fromUtf8 fromUtf8_utf8)

section Reading

/-- A string up to its closing quote, and what follows the quote. -/
def readText : List Char → Option (List Char × List Char)
  | [] => none
  | char :: rest =>
    if char = '"' then some ([], rest)
    else if char = '\\' then
      match rest with
      | [] => none
      | escaped :: rest => (readText rest).map fun found => (escaped :: found.1, found.2)
    else (readText rest).map fun found => (char :: found.1, found.2)

def readNat (chars : List Char) : Option (Nat × List Char) :=
  let digits := chars.takeWhile Char.isDigit
  if digits = [] then none else some (Nat.ofDigitChars 10 digits 0, chars.dropWhile Char.isDigit)

def readWord (word : String) (value : Value Empty) (chars : List Char) : Option (Value Empty × List Char) :=
  if word.toList.isPrefixOf chars then some (value, chars.drop word.toList.length) else none

/-- The name of a member with its colon. -/
def readName : List Char → Option (String × List Char)
  | '"' :: rest => do
    let name ← readText rest
    match name.2 with
    | ':' :: rest => some (String.ofList name.1, rest)
    | _ => none
  | _ => none

mutual

/-- One value from the front of a text. The fuel bounds its length. -/
def readValue : Nat → List Char → Option (Value Empty × List Char)
  | 0, _ => none
  | _ + 1, [] => none
  | fuel + 1, char :: rest =>
    if char = 'n' then readWord "null" .null (char :: rest)
    else if char = 't' then readWord "true" (.bool true) (char :: rest)
    else if char = 'f' then readWord "false" (.bool false) (char :: rest)
    else if char = '-' then (readNat rest).map fun found => (.int (-found.1), found.2)
    else if char = '"' then (readText rest).map fun found => (.string (String.ofList found.1), found.2)
    else if char = '[' then
      if rest.head? = some ']' then some (.array [], rest.tail)
      else (readItems fuel rest).map fun found => (.array found.1, found.2)
    else if char = '\x7b' then
      if rest.head? = some '\x7d' then some (.object [], rest.tail)
      else (readMembers fuel rest).map fun found => (.object found.1, found.2)
    else (readNat (char :: rest)).map fun found => (.int found.1, found.2)

/-- The items of an array that has some, with its closing bracket. -/
def readItems : Nat → List Char → Option (List (Value Empty) × List Char)
  | 0, _ => none
  | fuel + 1, chars => do
    let item ← readValue fuel chars
    match item.2 with
    | ']' :: rest => some ([item.1], rest)
    | ',' :: rest => (readItems fuel rest).map fun found => (item.1 :: found.1, found.2)
    | _ => none

def readMembers : Nat → List Char → Option (List (String × Value Empty) × List Char)
  | 0, _ => none
  | fuel + 1, chars => do
    let name ← readName chars
    let value ← readValue fuel name.2
    match value.2 with
    | '\x7d' :: rest => some ([(name.1, value.1)], rest)
    | ',' :: rest => (readMembers fuel rest).map fun found => ((name.1, value.1) :: found.1, found.2)
    | _ => none

end

end Reading

section Printed

def Value.text (value : Value Empty) : List Char := (value.render Empty.elim).toList

/-- The text of some items up to the bracket that closes them. -/
def itemsText (items : List (Value Empty)) : List Char :=
  (",".intercalate (renderItems Empty.elim items)).toList ++ [']']

def membersText (members : List (String × Value Empty)) : List Char :=
  (",".intercalate (renderMembers Empty.elim members)).toList ++ ['\x7d']

def nameText (name : String) : List Char := '"' :: ((escape name).toList ++ ['"', ':'])

theorem text_array (items : List (Value Empty)) : (Value.array items).text = '[' :: itemsText items := by
  simp [Value.text, Value.render, itemsText]

theorem text_object (members : List (String × Value Empty)) :
    (Value.object members).text = '\x7b' :: membersText members := by
  simp [Value.text, Value.render, membersText]

theorem text_string (text : String) :
    (Value.string text : Value Empty).text = '"' :: ((escape text).toList ++ ['"']) := by
  simp [Value.text, Value.render]

theorem itemsText_single (item : Value Empty) : itemsText [item] = item.text ++ [']'] := by
  simp [itemsText, renderItems, Value.text]

theorem itemsText_cons (item next : Value Empty) (rest : List (Value Empty)) :
    itemsText (item :: next :: rest) = item.text ++ ',' :: itemsText (next :: rest) := by
  simp [itemsText, renderItems, Value.text]

theorem membersText_single (name : String) (value : Value Empty) :
    membersText [(name, value)] = nameText name ++ (value.text ++ ['\x7d']) := by
  simp [membersText, renderMembers, Value.text, nameText]

theorem membersText_cons (name : String) (value : Value Empty) (next : String × Value Empty)
    (rest : List (String × Value Empty)) :
    membersText ((name, value) :: next :: rest) =
      nameText name ++ (value.text ++ ',' :: membersText (next :: rest)) := by
  simp [membersText, renderMembers, Value.text, nameText]

end Printed

section RoundTrip

/-- What follows a value does not go on with a digit. -/
def Ends (rest : List Char) : Prop := ∀ char ∈ rest.head?, char.isDigit = false

theorem ends_cons {char : Char} {rest : List Char} (other : char.isDigit = false) : Ends (char :: rest) := by
  intro found first
  obtain rfl := Option.some.inj first
  exact other

theorem readText_quote (rest : List Char) : readText ('"' :: rest) = some ([], rest) := by
  cases rest <;> rfl

theorem readText_slash (char : Char) (rest : List Char) :
    readText ('\\' :: char :: rest) = (readText rest).map fun found => (char :: found.1, found.2) := rfl

theorem readText_plain {char : Char} (quote : char ≠ '"') (slash : char ≠ '\\') (rest : List Char) :
    readText (char :: rest) = (readText rest).map fun found => (char :: found.1, found.2) := by
  cases rest <;> simp [readText, quote, slash]

theorem readText_escape (text : List Char) (rest : List Char) :
    readText ((text.flatMap fun char => if char = '"' ∨ char = '\\' then ['\\', char] else [char]) ++ '"' :: rest) =
      some (text, rest) := by
  induction text with
  | nil => exact readText_quote rest
  | cons char chars ih =>
    rw [List.flatMap_cons, List.append_assoc]
    by_cases special : char = '"' ∨ char = '\\'
    · rw [if_pos special]
      rw [List.cons_append, List.cons_append, List.nil_append, readText_slash, ih]
      rfl
    · rw [if_neg special]
      obtain ⟨quote, slash⟩ := not_or.mp special
      rw [List.cons_append, List.nil_append, readText_plain quote slash, ih]
      rfl

theorem readText_name (text : String) (rest : List Char) :
    readText ((escape text).toList ++ '"' :: rest) = some (text.toList, rest) := by
  rw [escape, String.toList_ofList]
  exact readText_escape text.toList rest

theorem isDigit_of_mem {char : Char} {n : Nat} (held : char ∈ Nat.toDigits 10 n) : char.isDigit = true :=
  Nat.isDigit_of_mem_toDigits (by decide) (by decide) held

theorem readNat_digits (n : Nat) {rest : List Char} (ends : Ends rest) :
    readNat (Nat.toDigits 10 n ++ rest) = some (n, rest) := by
  have digits : ∀ char ∈ Nat.toDigits 10 n, char.isDigit = true := fun _ => isDigit_of_mem
  -- The number ends where the digits do, so what follows must not start with one.
  have stops : rest.takeWhile Char.isDigit = [] ∧ rest.dropWhile Char.isDigit = rest := by
    cases rest with
    | nil => exact ⟨rfl, rfl⟩
    | cons char chars =>
      have other : ¬ char.isDigit = true := by simp [ends char rfl]
      exact ⟨List.takeWhile_cons_of_neg other, List.dropWhile_cons_of_neg other⟩
  rw [readNat, List.takeWhile_append_of_pos digits, List.dropWhile_append_of_pos digits, stops.1, stops.2,
    List.append_nil, if_neg Nat.toDigits_ne_nil, Nat.ofDigitChars_ten_toDigits]

theorem readWord_word (word : String) (value : Value Empty) (rest : List Char) :
    readWord word value (word.toList ++ rest) = some (value, rest) := by
  rw [readWord, if_pos (List.isPrefixOf_iff_prefix.mpr (List.prefix_append _ _)), List.drop_left]

theorem readValue_nat (n fuel : Nat) {rest : List Char} (ends : Ends rest) :
    readValue (fuel + 1) (Nat.toDigits 10 n ++ rest) = some (.int n, rest) := by
  have read := readNat_digits n ends
  cases text : Nat.toDigits 10 n with
  | nil => exact absurd text Nat.toDigits_ne_nil
  | cons char chars =>
    have digit : char.isDigit = true := isDigit_of_mem (text ▸ List.mem_cons_self)
    have other : ∀ letter : Char, letter.isDigit = false → char ≠ letter := by
      rintro letter not rfl
      rw [digit] at not
      cases not
    rw [text, List.cons_append] at read
    rw [List.cons_append, readValue, if_neg (other _ rfl), if_neg (other _ rfl), if_neg (other _ rfl),
      if_neg (other _ rfl), if_neg (other _ rfl), if_neg (other _ rfl), if_neg (other _ rfl), read]
    rfl

theorem text_nat (n : Nat) : (Value.int n : Value Empty).text = Nat.toDigits 10 n := Nat.toList_repr

theorem text_negSucc (n : Nat) : (Value.int (Int.negSucc n) : Value Empty).text = '-' :: Nat.toDigits 10 (n + 1) := by
  rw [← Nat.toList_repr]
  exact String.toList_append

/-- No value starts like the end of an array. -/
theorem text_cons (value : Value Empty) : ∃ char rest, value.text = char :: rest ∧ char ≠ ']' := by
  cases value with
  | null => exact ⟨'n', _, rfl, by decide⟩
  | bool truth => cases truth with
    | false => exact ⟨'f', _, rfl, by decide⟩
    | true => exact ⟨'t', _, rfl, by decide⟩
  | int n => cases n with
    | ofNat n =>
      cases digits : Nat.toDigits 10 n with
      | nil => exact absurd digits Nat.toDigits_ne_nil
      | cons char rest =>
        have digit : char.isDigit = true := isDigit_of_mem (digits ▸ List.mem_cons_self)
        refine ⟨char, rest, (text_nat n).trans digits, ?_⟩
        rintro rfl
        cases digit
    | negSucc n => exact ⟨'-', _, text_negSucc n, by decide⟩
  | float number => cases number
  | string text => exact ⟨'"', _, text_string text, by decide⟩
  | array items => exact ⟨'[', _, text_array items, by decide⟩
  | object members => exact ⟨'\x7b', _, text_object members, by decide⟩

theorem readName_text (name : String) (rest : List Char) : readName (nameText name ++ rest) = some (name, rest) := by
  have named : nameText name ++ rest = '"' :: ((escape name).toList ++ '"' :: ':' :: rest) := by
    simp [nameText]
  rw [named, readName, readText_name, Option.bind_eq_bind, Option.bind_some]
  exact congrArg (fun text => some (text, rest)) String.ofList_toList

mutual

/-- What is read of a printed value is the value. -/
theorem readValue_text : ∀ (value : Value Empty) (fuel : Nat) (rest : List Char), value.text.length ≤ fuel →
    Ends rest → readValue (fuel + 1) (value.text ++ rest) = some (value, rest)
  | .null => fun _ rest _ _ => readWord_word "null" .null rest
  | .bool false => fun _ rest _ _ => readWord_word "false" (.bool false) rest
  | .bool true => fun _ rest _ _ => readWord_word "true" (.bool true) rest
  | .int (.ofNat n) => by
    intro fuel rest _ ends
    rw [Int.ofNat_eq_natCast, text_nat]
    exact readValue_nat n fuel ends
  | .int (.negSucc n) => by
    intro fuel rest _ ends
    rw [text_negSucc, List.cons_append, readValue]
    simp only [Char.reduceEq, if_false, if_true]
    rw [readNat_digits (n + 1) ends]
    rfl
  | .string text => by
    intro fuel rest _ _
    rw [text_string, List.cons_append, List.append_assoc, readValue]
    simp only [Char.reduceEq, if_false, if_true]
    rw [List.cons_append, readText_name, Option.map_some, List.nil_append, String.ofList_toList]
  | .array [] => fun _ _ _ _ => rfl
  | .array (item :: items) => by
    intro fuel rest short _
    rw [text_array, List.length_cons] at short
    obtain ⟨fuel, rfl⟩ : ∃ less, fuel = less + 1 := ⟨fuel - 1, by omega⟩
    have read := readItems_text (item :: items) fuel rest (by omega) (by simp)
    obtain ⟨char, chars, shape, other⟩ := text_cons item
    -- The reader looks for the end of an empty array first.
    have goes : (itemsText (item :: items) ++ rest).head? ≠ some ']' := by
      cases items with
      | nil => simpa [itemsText_single, shape] using other
      | cons next items => simpa [itemsText_cons, shape] using other
    rw [text_array, List.cons_append, readValue]
    simp only [Char.reduceEq, if_false, if_true]
    rw [if_neg goes, read, Option.map_some]
  | .object [] => fun _ _ _ _ => rfl
  | .object ((name, value) :: members) => by
    intro fuel rest short _
    rw [text_object, List.length_cons] at short
    obtain ⟨fuel, rfl⟩ : ∃ less, fuel = less + 1 := ⟨fuel - 1, by omega⟩
    have read := readMembers_text ((name, value) :: members) fuel rest (by omega) (by simp)
    have goes : (membersText ((name, value) :: members) ++ rest).head? ≠ some '\x7d' := by
      cases members with
      | nil => simp [membersText_single, nameText]
      | cons next members => simp [membersText_cons, nameText]
    rw [text_object, List.cons_append, readValue]
    simp only [Char.reduceEq, if_false, if_true]
    rw [if_neg goes, read, Option.map_some]

theorem readItems_text : ∀ (items : List (Value Empty)) (fuel : Nat) (rest : List Char),
    (itemsText items).length ≤ fuel → items ≠ [] → readItems (fuel + 1) (itemsText items ++ rest) = some (items, rest)
  | [] => fun _ _ _ filled => absurd rfl filled
  | item :: items => by
    intro fuel rest short _
    have others := readItems_text items
    have here := readValue_text item
    cases items with
    | nil =>
      rw [itemsText_single, List.length_append, List.length_singleton] at short
      obtain ⟨fuel, rfl⟩ : ∃ less, fuel = less + 1 := ⟨fuel - 1, by omega⟩
      have read := here fuel (']' :: rest) (by omega) (ends_cons rfl)
      rw [itemsText_single, List.append_assoc, List.cons_append, List.nil_append, readItems, read]
      rfl
    | cons next items =>
      rw [itemsText_cons, List.length_append, List.length_cons] at short
      obtain ⟨fuel, rfl⟩ : ∃ less, fuel = less + 1 := ⟨fuel - 1, by omega⟩
      have read := here fuel (',' :: (itemsText (next :: items) ++ rest)) (by omega) (ends_cons rfl)
      have later := others fuel rest (by omega) (by simp)
      rw [itemsText_cons, List.append_assoc, List.cons_append, readItems, read]
      simp only [Option.bind_eq_bind, Option.bind_some]
      rw [later]
      rfl

theorem readMembers_text : ∀ (members : List (String × Value Empty)) (fuel : Nat) (rest : List Char),
    (membersText members).length ≤ fuel → members ≠ [] →
      readMembers (fuel + 1) (membersText members ++ rest) = some (members, rest)
  | [] => fun _ _ _ filled => absurd rfl filled
  | (name, value) :: members => by
    intro fuel rest short _
    have others := readMembers_text members
    have here := readValue_text value
    cases members with
    | nil =>
      rw [membersText_single, List.length_append, List.length_append, List.length_singleton] at short
      obtain ⟨fuel, rfl⟩ : ∃ less, fuel = less + 1 := ⟨fuel - 1, by omega⟩
      have read := here fuel ('\x7d' :: rest) (by omega) (ends_cons rfl)
      rw [membersText_single, List.append_assoc, List.append_assoc, List.cons_append, List.nil_append, readMembers,
        readName_text, Option.bind_eq_bind, Option.bind_some, read]
      rfl
    | cons next members =>
      rw [membersText_cons, List.length_append, List.length_append, List.length_cons] at short
      obtain ⟨fuel, rfl⟩ : ∃ less, fuel = less + 1 := ⟨fuel - 1, by omega⟩
      have read := here fuel (',' :: (membersText (next :: members) ++ rest)) (by omega) (ends_cons rfl)
      have later := others fuel rest (by omega) (by simp)
      rw [membersText_cons, List.append_assoc, List.append_assoc, List.cons_append, readMembers, readName_text,
        Option.bind_eq_bind, Option.bind_some, read]
      simp only [Option.bind_eq_bind, Option.bind_some]
      rw [later]
      rfl

end

end RoundTrip

section Compact

/-- The library of compact texts. -/
def Serde.compact : Serde where
  Float := Empty
  fromSlice bytes :=
    match fromUtf8 bytes with
    | none => .error "invalid unicode code point"
    | some text =>
      match readValue (text.toList.length + 1) text.toList with
      | some (value, []) => .ok value
      | _ => .error "expected value"
  print value := value.render Empty.elim
  mismatch _ := "invalid type"
  again value := value

theorem Serde.compact_fromSlice (value : Value Empty) : Serde.compact.fromSlice (Serde.compact.toVec value) = .ok value := by
  have read := readValue_text value value.text.length [] (Nat.le_refl _) (by simp [Ends])
  rw [List.append_nil] at read
  have found : readValue ((value.render Empty.elim).toList.length + 1) (value.render Empty.elim).toList =
      some (value, []) := read
  simp only [compact, toVec, fromUtf8_utf8]
  rw [found]

theorem Serde.compact_faithful : Serde.compact.Faithful where
  reads := by
    intro members result read
    have same := (Serde.compact_fromSlice (.object members)).symm.trans read
    exact ⟨members, (Except.ok.inj same).symm, fun key => Option.map_id'.symm⟩
  again_null _ := Iff.rfl
  again_asStr _ := rfl
  again_asBool _ := rfl
  again_asI64 _ := rfl
  again_asU64 _ := rfl
  again_asBytes _ := rfl

theorem Serde.compact_nested : Serde.compact.Nested :=
  fun members => ⟨members, rfl, fun _ => Option.map_id'.symm, Nat.le_refl _⟩

theorem Serde.compact_readsBack : Serde.compact.ReadsBack := by
  intro members _
  exact ⟨_, Serde.compact_fromSlice (.object members), Nat.le_refl _⟩

/-- Nothing nested deeper than the recursion limit is read. -/
def Serde.Limited (J : Serde) : Prop := ∀ bytes value, J.fromSlice bytes = .ok value → value.depth < 128

def limitDepth {F : Type} (value : Value F) : Except String (Value F) :=
  if value.depth < 128 then .ok value else .error "recursion limit exceeded"

/-- The library of compact texts, with the recursion limit. -/
def Serde.shallow : Serde :=
  { Serde.compact with fromSlice := fun bytes => Serde.compact.fromSlice bytes >>= limitDepth }

end Compact

end Json
