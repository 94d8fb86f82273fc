import UnifiedAttestation.Wire.Reader

/-! JSON values, as a library reads them from text and prints them.

The text itself stays with the library: `Serde` holds its reader and printer. A
value that is printed and read again may come back with other floats and with the
members of inner objects in another order; `Serde.Faithful` asks for no more.
-/

set_option autoImplicit false

namespace Json

open Wire (Bytes utf8)

inductive Value (F : Type) where
  | null
  | bool (value : Bool)
  | int (value : Int)
  | float (value : F)
  | string (value : String)
  | array (items : List (Value F))
  | object (members : List (String × Value F))

/-- The members of an object. Reading keeps one member for each key. -/
abbrev Map (F : Type) := List (String × Value F)

section Members
variable {F : Type}

def Map.get : Map F → String → Option (Value F)
  | [], _ => none
  | (name, value) :: rest, key => if name = key then some value else Map.get rest key

def Map.insert : Map F → String → Value F → Map F
  | [], key, value => [(key, value)]
  | (name, old) :: rest, key, value =>
    if name = key then (key, value) :: rest else (name, old) :: Map.insert rest key value

/-- Insert a value that may be missing. -/
def Map.insertSome (members : Map F) (key : String) : Option (Value F) → Map F
  | some value => members.insert key value
  | none => members

@[simp] theorem Map.get_nil (key : String) : Map.get ([] : Map F) key = none := rfl

@[simp] theorem Map.get_cons (name key : String) (value : Value F) (rest : Map F) :
    Map.get ((name, value) :: rest) key = if name = key then some value else Map.get rest key := rfl

@[simp] theorem Map.insert_nil (key : String) (value : Value F) :
    Map.insert ([] : Map F) key value = [(key, value)] := rfl

@[simp] theorem Map.insert_cons (name key : String) (old value : Value F) (rest : Map F) :
    Map.insert ((name, old) :: rest) key value =
      if name = key then (key, value) :: rest else (name, old) :: Map.insert rest key value := rfl

theorem Map.get_insert (members : Map F) (key other : String) (value : Value F) :
    (members.insert key value).get other = if key = other then some value else members.get other := by
  induction members with
  | nil => rfl
  | cons member rest ih =>
    obtain ⟨name, old⟩ := member
    by_cases same : name = key
    · subst same
      by_cases asked : name = other
      · simp [asked]
      · simp [asked]
    · by_cases asked : name = other
      · subst asked
        simp [same, Ne.symm same]
      · simp [same, asked, ih]

theorem Map.get_insertSome (members : Map F) (key other : String) (value : Option (Value F)) :
    (members.insertSome key value).get other =
      if key = other then value.or (members.get other) else members.get other := by
  cases value with
  | none => simp [insertSome]
  | some value =>
    rw [insertSome, Map.get_insert]
    rfl

/-- An edit that writes some members, whatever is there, and leaves the others. -/
def Map.Overlays (edit : Map F → Map F) : Prop :=
  ∀ members key, Map.get (edit members) key = (Map.get (edit []) key).or (Map.get members key)

theorem Map.overlays_insertSome (key : String) (value : Option (Value F)) :
    Map.Overlays fun members => Map.insertSome members key value := by
  intro members other
  simp only [Map.get_insertSome]
  by_cases same : key = other
  · simp [same]
  · simp [same]

theorem Map.Overlays.comp {outer inner : Map F → Map F} (upper : Map.Overlays outer) (lower : Map.Overlays inner) :
    Map.Overlays (outer ∘ inner) := by
  intro members key
  simp only [Function.comp_apply]
  rw [upper (inner members), lower members, upper (inner []), Option.or_assoc]

end Members

namespace Value
variable {F : Type}

/-- The member lower a key; a value that is no object has none. -/
def get : Value F → String → Option (Value F)
  | .object members, key => Map.get members key
  | _, _ => none

def asStr : Value F → Option String
  | .string text => some text
  | _ => none

def asBool : Value F → Option Bool
  | .bool value => some value
  | _ => none

def asI64 : Value F → Option Int
  | .int value => if -(2 ^ 63) ≤ value ∧ value < 2 ^ 63 then some value else none
  | _ => none

def asU64 : Value F → Option Nat
  | .int value => if 0 ≤ value ∧ value < 2 ^ 64 then some value.toNat else none
  | _ => none

def asArray : Value F → Option (List (Value F))
  | .array items => some items
  | _ => none

def asObject : Value F → Option (Map F)
  | .object members => some members
  | _ => none

/-- A byte of an array of numbers. -/
def asU8 : Value F → Option UInt8
  | .int value => if 0 ≤ value ∧ value < 256 then some (UInt8.ofNat value.toNat) else none
  | _ => none

/-- A byte vector, which is written as an array of numbers. -/
def asBytes (value : Value F) : Option Bytes := value.asArray.bind fun items => items.mapM asU8

/-- An optional field: it may be missing, and `null` stands for nothing. -/
def optional {β : Type} (read : Value F → Option β) : Option (Value F) → Option (Option β)
  | none => some none
  | some .null => some none
  | some value => (read value).map some

/-- What was read, or `null`. -/
def orNull : Except String (Value F) → Value F
  | .ok value => value
  | .error _ => .null

/-- What an optional field holds, `null` aside. -/
def present : Option (Value F) → Option (Value F)
  | some .null => none
  | field => field

/-- The fields of a structure: the members of an object, or an array of them in the
order of their declaration. -/
def fields (names : List String) : Value F → Option (String → Option (Value F))
  | .object members => some (Map.get members)
  | .array items => if items.length ≤ names.length then some (Map.get (names.zip items)) else none
  | _ => none

theorem optional_some {β : Type} {read : Value F → Option β} {value : Value F} (there : value ≠ .null) :
    optional read (some value) = (read value).map some := by
  cases value with
  | null => exact absurd rfl there
  | _ => rfl

theorem present_some {value : Value F} (there : value ≠ .null) : present (some value) = some value := by
  cases value with
  | null => exact absurd rfl there
  | _ => rfl

/-- An optional field that can be read holds nothing, or a value that reads so. -/
theorem optional_eq_some {β : Type} {read : Value F → Option β} {field : Option (Value F)} {result : Option β} :
    optional read field = some result ↔ result.map some = (present field).map read := by
  cases field with
  | none => simp [optional, present, eq_comm]
  | some value =>
    by_cases null : value = .null
    · subst null
      simp [optional, present, eq_comm]
    · rw [optional_some null, present_some null]
      cases shape : read value with
      | none => cases result <;> simp [shape]
      | some found => cases result <;> simp [shape, eq_comm]

theorem asBool_eq_some {value : Value F} {truth : Bool} : value.asBool = some truth ↔ value = .bool truth := by
  cases value <;> simp [asBool]

theorem asStr_eq_some {value : Value F} {text : String} : value.asStr = some text ↔ value = .string text := by
  cases value <;> simp [asStr]

end Value

section Depth
variable {F : Type}

mutual

/-- How deep arrays and objects are nested. -/
def Value.depth : Value F → Nat
  | .array items => depthItems items + 1
  | .object members => depthMembers members + 1
  | _ => 0

def depthItems : List (Value F) → Nat
  | [] => 0
  | item :: rest => max item.depth (depthItems rest)

def depthMembers : List (String × Value F) → Nat
  | [] => 0
  | (_, value) :: rest => max value.depth (depthMembers rest)

end

theorem depthItems_le {items : List (Value F)} {bound : Nat} (each : ∀ item ∈ items, item.depth ≤ bound) :
    depthItems items ≤ bound := by
  induction items with
  | nil => exact Nat.zero_le _
  | cons item rest ih =>
    exact Nat.max_le.mpr ⟨each item List.mem_cons_self, ih fun later held => each later (List.mem_cons_of_mem _ held)⟩

theorem depth_of_get {members : Map F} {key : String} {value : Value F} (held : Map.get members key = some value) :
    value.depth ≤ depthMembers members := by
  induction members with
  | nil => cases held
  | cons member rest ih =>
    obtain ⟨name, first⟩ := member
    rw [Map.get_cons] at held
    by_cases same : name = key
    · rw [if_pos same] at held
      cases held
      exact Nat.le_max_left _ _
    · rw [if_neg same] at held
      exact Nat.le_trans (ih held) (Nat.le_max_right _ _)

theorem depthMembers_insert {members : Map F} {key : String} {value : Value F} {bound : Nat}
    (before : depthMembers members ≤ bound) (new : value.depth ≤ bound) :
    depthMembers (members.insert key value) ≤ bound := by
  induction members with
  | nil => exact Nat.max_le.mpr ⟨new, Nat.zero_le _⟩
  | cons member rest ih =>
    obtain ⟨name, old⟩ := member
    obtain ⟨first, later⟩ := Nat.max_le.mp before
    rw [Map.insert_cons]
    by_cases same : name = key
    · rw [if_pos same]
      exact Nat.max_le.mpr ⟨new, later⟩
    · rw [if_neg same]
      exact Nat.max_le.mpr ⟨first, ih later⟩

theorem depthMembers_insertSome {members : Map F} {key : String} {value : Option (Value F)} {bound : Nat}
    (before : depthMembers members ≤ bound) (new : ∀ found, value = some found → found.depth ≤ bound) :
    depthMembers (members.insertSome key value) ≤ bound := by
  cases value with
  | none => exact before
  | some value => exact depthMembers_insert before (new value rfl)

end Depth

section Equality
variable {F : Type} [DecidableEq F]

mutual

def Value.same : Value F → Value F → Bool
  | .null, .null => true
  | .bool x, .bool y => x == y
  | .int x, .int y => x == y
  | .float x, .float y => x == y
  | .string x, .string y => x == y
  | .array xs, .array ys => sameItems xs ys
  | .object xs, .object ys => sameMembers xs ys
  | _, _ => false

def sameItems : List (Value F) → List (Value F) → Bool
  | [], [] => true
  | x :: xs, y :: ys => x.same y && sameItems xs ys
  | _, _ => false

def sameMembers : List (String × Value F) → List (String × Value F) → Bool
  | [], [] => true
  | (name, x) :: xs, (other, y) :: ys => name == other && x.same y && sameMembers xs ys
  | _, _ => false

end

mutual

theorem Value.same_iff : ∀ x y : Value F, x.same y = true ↔ x = y
  | .null, y => by cases y <;> simp [Value.same]
  | .bool _, y => by cases y <;> simp [Value.same]
  | .int _, y => by cases y <;> simp [Value.same]
  | .float _, y => by cases y <;> simp [Value.same]
  | .string _, y => by cases y <;> simp [Value.same]
  | .array xs, y => by cases y <;> simp [Value.same, sameItems_iff xs]
  | .object xs, y => by cases y <;> simp [Value.same, sameMembers_iff xs]

theorem sameItems_iff : ∀ xs ys : List (Value F), sameItems xs ys = true ↔ xs = ys
  | [], ys => by cases ys <;> simp [sameItems]
  | x :: xs, ys => by cases ys <;> simp [sameItems, Value.same_iff x, sameItems_iff xs]

theorem sameMembers_iff : ∀ xs ys : List (String × Value F), sameMembers xs ys = true ↔ xs = ys
  | [], ys => by cases ys <;> simp [sameMembers]
  | (name, x) :: xs, ys => by
    cases ys with
    | nil => simp [sameMembers]
    | cons y ys => simp [sameMembers, Value.same_iff x, sameMembers_iff xs, Prod.ext_iff, and_assoc]

end

instance : DecidableEq (Value F) := fun x y => decidable_of_iff _ (Value.same_iff x y)

end Equality

/-- A JSON library: its reader and printer of texts, the message for a text of
another shape than asked for, and what becomes of a value that is printed as a
member and read again. -/
structure Serde where
  Float : Type
  fromSlice : Bytes → Except String (Value Float)
  print : Value Float → String
  mismatch : Bytes → String
  again : Value Float → Value Float

namespace Serde
variable (J : Serde)

def fromStr (text : String) : Except String (Value J.Float) := J.fromSlice (utf8 text)

def toVec (value : Value J.Float) : Bytes := utf8 (J.print value)

/-- Read a text as a structure. -/
def fromSliceAs {β : Type} (read : Value J.Float → Option β) (bytes : Bytes) : Except String β := do
  let value ← J.fromSlice bytes
  match read value with
  | some result => .ok result
  | none => .error (J.mismatch bytes)

/-- An object that can be read back at all has the same members, each printed and
read once more. This changes no text, truth value, integer or byte array. -/
structure Faithful : Prop where
  reads : ∀ {members : Map J.Float} {result : Value J.Float}, J.fromSlice (J.toVec (.object members)) = .ok result →
    ∃ kept, result = .object kept ∧ ∀ key, Map.get kept key = (Map.get members key).map J.again
  again_null : ∀ value, J.again value = .null ↔ value = .null
  again_asStr : ∀ value, (J.again value).asStr = value.asStr
  again_asBool : ∀ value, (J.again value).asBool = value.asBool
  again_asI64 : ∀ value, (J.again value).asI64 = value.asI64
  again_asU64 : ∀ value, (J.again value).asU64 = value.asU64
  again_asBytes : ∀ value, (J.again value).asBytes = value.asBytes

/-- An object nested less than 128 deep can be read back, and no deeper. -/
def ReadsBack : Prop :=
  ∀ members : Map J.Float, (Value.object members).depth < 128 →
    ∃ result, J.fromSlice (J.toVec (.object members)) = .ok result ∧ result.depth ≤ (Value.object members).depth

/-- A member that is an object keeps its members, each printed and read once more. -/
def Nested : Prop :=
  ∀ members : Map J.Float, ∃ kept, J.again (.object members) = .object kept ∧
    (∀ key, Map.get kept key = (Map.get members key).map J.again) ∧ depthMembers kept ≤ depthMembers members

variable {J}

theorem fromSliceAs_eq_ok {β : Type} {read : Value J.Float → Option β} {bytes : Bytes} {result : β} :
    J.fromSliceAs read bytes = .ok result ↔ ∃ value, J.fromSlice bytes = .ok value ∧ read value = some result := by
  cases text : J.fromSlice bytes with
  | error message => simp [fromSliceAs, text, bind, Except.bind]
  | ok value => cases shape : read value <;> simp [fromSliceAs, text, shape, bind, Except.bind]

theorem Faithful.again_string (faithful : J.Faithful) (text : String) : J.again (.string text) = .string text :=
  Value.asStr_eq_some.mp (faithful.again_asStr (.string text))

theorem Faithful.readBack (faithful : J.Faithful) (readsBack : J.ReadsBack) {members : Map J.Float}
    (shallow : depthMembers members < 127) :
    ∃ kept, J.fromSlice (J.toVec (.object members)) = .ok (.object kept) ∧
      (∀ key, Map.get kept key = (Map.get members key).map J.again) ∧ depthMembers kept ≤ depthMembers members := by
  obtain ⟨result, read, depth⟩ := readsBack members (Nat.succ_lt_succ shallow)
  obtain ⟨kept, rfl, each⟩ := faithful.reads read
  exact ⟨kept, read, each, Nat.le_of_succ_le_succ depth⟩

theorem Faithful.present_again (faithful : J.Faithful) (field : Option (Value J.Float)) :
    Value.present (field.map J.again) = (Value.present field).map J.again := by
  cases field with
  | none => rfl
  | some value =>
    by_cases null : value = .null
    · subst null
      rw [Option.map_some, (faithful.again_null .null).mpr rfl]
      rfl
    · have there : J.again value ≠ .null := fun gone => null ((faithful.again_null value).mp gone)
      rw [Option.map_some, Value.present_some there, Value.present_some null, Option.map_some]

theorem bind_again {β : Type} {read : Value J.Float → Option β} (blind : ∀ value, read (J.again value) = read value)
    (field : Option (Value J.Float)) : (field.map J.again).bind read = field.bind read := by
  cases field with
  | none => rfl
  | some value => exact blind value

theorem Faithful.optional_again (faithful : J.Faithful) {β : Type} {read : Value J.Float → Option β}
    (blind : ∀ value, read (J.again value) = read value) (field : Option (Value J.Float)) :
    Value.optional read (field.map J.again) = Value.optional read field := by
  cases field with
  | none => rfl
  | some value =>
    by_cases null : value = .null
    · subst null
      rw [Option.map_some, (faithful.again_null .null).mpr rfl]
    · have there : J.again value ≠ .null := fun gone => null ((faithful.again_null value).mp gone)
      rw [Option.map_some, Value.optional_some there, Value.optional_some null, blind]

end Serde

section Printing
variable {F : Type} (number : F → String)

def escape (text : String) : String :=
  String.ofList (text.toList.flatMap fun char => if char = '"' ∨ char = '\\' then ['\\', char] else [char])

mutual

/-- The compact text of a value without control characters. -/
def Value.render : Value F → String
  | .null => "null"
  | .bool value => if value then "true" else "false"
  | .int value => toString value
  | .float value => number value
  | .string text => "\"" ++ escape text ++ "\""
  | .array items => "[" ++ ",".intercalate (renderItems items) ++ "]"
  | .object members => "\x7b" ++ ",".intercalate (renderMembers members) ++ "\x7d"

def renderItems : List (Value F) → List String
  | [] => []
  | item :: rest => item.render :: renderItems rest

def renderMembers : List (String × Value F) → List String
  | [] => []
  | (name, value) :: rest => ("\"" ++ escape name ++ "\":" ++ value.render) :: renderMembers rest

end

end Printing

section Tables
variable {F : Type} [DecidableEq F]

/-- The library restricted to a table of texts and their values. -/
def Serde.ofTable (table : List (String × Value F)) : Serde where
  Float := F
  fromSlice bytes :=
    match table.find? fun entry => utf8 entry.1 = bytes with
    | some entry => .ok entry.2
    | none => .error "expected value"
  print value := ((table.find? fun entry => entry.2 = value).map Prod.fst).getD ""
  mismatch _ := "invalid type"
  again value := value

omit [DecidableEq F] in
/-- In a table without repeated texts, the text of an entry finds that entry. -/
theorem find_text {table : List (String × Value F)} {entry : String × Value F}
    (distinct : (table.map Prod.fst).Nodup) (held : entry ∈ table) :
    table.find? (fun other => utf8 other.1 = utf8 entry.1) = some entry := by
  induction table with
  | nil => cases held
  | cons first rest ih =>
    rw [List.map_cons, List.nodup_cons] at distinct
    rcases List.mem_cons.mp held with here | later
    · rw [← here, List.find?_cons_of_pos (by simp)]
    · have other : first.1 ≠ entry.1 := fun same => distinct.1 (same ▸ List.mem_map_of_mem later)
      rw [List.find?_cons_of_neg (by simpa using fun same => other (Wire.utf8_injective same))]
      exact ih distinct.2 later

theorem Serde.ofTable_faithful {table : List (String × Value F)} (distinct : (table.map Prod.fst).Nodup)
    (texts : "" ∉ table.map Prod.fst) : (Serde.ofTable table).Faithful where
  reads := by
    intro members result read
    refine ⟨members, ?_, fun key => Option.map_id'.symm⟩
    cases found : table.find? fun entry => entry.2 = (.object members : Value F) with
    | none =>
      have unread : table.find? (fun entry => utf8 entry.1 = utf8 "") = none := by
        rw [List.find?_eq_none]
        intro entry held same
        have empty : entry.1 = "" := Wire.utf8_injective (by simpa using same)
        exact texts (empty ▸ List.mem_map_of_mem held)
      simp [toVec, ofTable, found, unread] at read
    | some entry =>
      have same : entry.2 = .object members := by simpa using List.find?_some found
      have again := find_text distinct (List.mem_of_find?_eq_some found)
      simp only [toVec, ofTable, found, Option.map_some, Option.getD_some, again] at read
      exact (Except.ok.inj read).symm.trans same
  again_null _ := Iff.rfl
  again_asStr _ := rfl
  again_asBool _ := rfl
  again_asI64 _ := rfl
  again_asU64 _ := rfl
  again_asBytes _ := rfl

end Tables

/-- The library restricted to the texts of some values without floats. -/
def Serde.ofValues (values : List (Value Empty)) : Serde :=
  Serde.ofTable (values.map fun value => (value.render Empty.elim, value))

end Json
