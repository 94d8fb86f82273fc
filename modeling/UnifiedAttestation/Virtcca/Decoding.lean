import UnifiedAttestation.Virtcca.Tokens
import UnifiedAttestation.Wire.Yields

/-! What the decoders of VirtCCA payloads accept, and when they panic.

The documentation gives the type and size of each label. A decoder accepts the maps it
describes and reads them as described, but panics on a configuration or a signer that is
not empty, since both are copied into a slice that has no room.
-/

set_option autoImplicit false

namespace UnifiedAttestation.Virtcca

open Wire (Bytes Outcome Yields Reached)
open Eventlog (Rems)

section Shapes

/-- A byte string of one of the sizes, or of any size where none is given. -/
def IsBytes (sizes : List Nat) (v : Cbor) : Prop := ∃ bytes, v = .bytes bytes ∧ (sizes = [] ∨ bytes.length ∈ sizes)

def IsText (v : Cbor) : Prop := ∃ text, v = .text text

def IsInteger (v : Cbor) : Prop := ∃ value, v = .integer value

def IsArray (count : Nat) (documented : Cbor → Prop) (v : Cbor) : Prop :=
  ∃ items, v = .array items ∧ items.length = count ∧ ∀ item ∈ items, documented item

/-- An integer label with a value that it may have. -/
def IsEntry (documented : Int → Cbor → Prop) (entry : Cbor × Cbor) : Prop :=
  ∃ label, entry.1 = .integer label ∧ documented label entry.2

def IsMap (documented : Int → Cbor → Prop) (v : Cbor) : Prop :=
  ∃ entries, v = .map entries ∧ ∀ entry ∈ entries, IsEntry documented entry

def bytesIn (v : Cbor) : Bytes := v.asBytes.getD []

def textIn (v : Cbor) : String := Grpc.trimEndNul (v.asText.getD "")

def integerIn (v : Cbor) : Int := v.asInteger.getD 0

def itemsIn (v : Cbor) : List Cbor := v.asArray.getD []

def entriesIn : Cbor → List (Cbor × Cbor)
  | .map entries => entries
  | _ => []

/-- What the last occurrence of a label holds, or an initial value. -/
def lastOr {γ : Type} (label : Int) (read : Cbor → γ) (initial : γ) (entries : List (Cbor × Cbor)) : γ :=
  ((lastUnder label entries).map read).getD initial

/-- The values of all occurrences of a label, in order. -/
def allUnder (label : Int) (entries : List (Cbor × Cbor)) : List Cbor :=
  (entries.filter fun entry => entry.1.asInteger = some label).map Prod.snd

theorem isEntry_integer {documented : Int → Cbor → Prop} {label : Int} {v : Cbor} :
    IsEntry documented (.integer label, v) ↔ documented label v := by
  constructor
  · rintro ⟨_, same, held⟩
    cases same
    exact held
  · intro held
    exact ⟨label, rfl, held⟩

variable {γ : Type} {label other : Int} {read : Cbor → γ} {initial : γ} {v : Cbor}

theorem lastOr_nil : lastOr label read initial [] = initial := rfl

theorem lastOr_cons (entry : Cbor × Cbor) (rest : List (Cbor × Cbor)) :
    lastOr label read initial (entry :: rest) = lastOr label read (lastOr label read initial [entry]) rest := by
  obtain ⟨key, value⟩ := entry
  by_cases here : key.asInteger = some label
  · cases later : lastUnder label rest <;> simp [lastOr, lastUnder, later, here]
  · cases later : lastUnder label rest <;> simp [lastOr, lastUnder, later, here]

theorem lastOr_entry :
    lastOr label read initial [(.integer other, v)] = if other = label then read v else initial := by
  by_cases here : other = label <;> simp [lastOr, lastUnder, Cbor.asInteger, here]

theorem allUnder_cons (entry : Cbor × Cbor) (rest : List (Cbor × Cbor)) :
    allUnder label (entry :: rest) = allUnder label [entry] ++ allUnder label rest := by
  rw [allUnder, ← List.singleton_append, List.filter_append, List.map_append]
  rfl

theorem allUnder_entry : allUnder label [(.integer other, v)] = if other = label then [v] else [] := by
  by_cases here : other = label <;> simp [allUnder, Cbor.asInteger, here]

/-- A fixed array keeps its size. -/
theorem lastOr_length {initial : Bytes} {size : Nat} (sized : initial.length = size)
    (fits : other = label → IsBytes [size] v) : (lastOr label bytesIn initial [(.integer other, v)]).length = size := by
  rw [lastOr_entry]
  split
  · next here =>
    obtain ⟨bytes, rfl, none | fit⟩ := fits here
    · cases none
    · exact List.mem_singleton.mp fit
  · exact sized

theorem lastOr_documented {documented : Int → Cbor → Prop} {initial : Bytes} {size : Nat} (sized : initial.length = size)
    (held : documented other v) (fits : documented label v → IsBytes [size] v) :
    (lastOr label bytesIn initial [(.integer other, v)]).length = size := by
  apply lastOr_length sized
  intro same
  subst same
  exact fits held

end Shapes

section Readers
variable {v : Cbor}

theorem getVec_yields (param : String) (sizes : List Nat) :
    Yields (getVec v param sizes) (IsBytes sizes v) False (bytesIn v) := by
  refine Yields.congr ((Yields.orBail _ _ []).bind fun _ _ => (Yields.ensure _ _).bind fun _ _ => Yields.pure_ok _) ?_ (by simp)
  constructor
  · rintro ⟨⟨bytes, found⟩, sized, _⟩
    obtain rfl := Cbor.asBytes_eq_some.mp found
    exact ⟨bytes, rfl, sized⟩
  · rintro ⟨bytes, rfl, sized⟩
    exact ⟨⟨bytes, rfl⟩, sized, trivial⟩

theorem getString_yields (param : String) : Yields (getString v param) (IsText v) False (textIn v) := by
  apply Yields.congr (Yields.map (Yields.orBail _ _ "")) _ Iff.rfl
  exact exists_congr fun _ => Cbor.asText_eq_some

theorem getNum_yields (param : String) : Yields (getNum v param) (IsInteger v) False (integerIn v) := by
  apply Yields.congr (Yields.orBail _ _ 0) _ Iff.rfl
  exact exists_congr fun _ => Cbor.asInteger_eq_some

theorem getArray_yields (param : String) (count : Nat) :
    Yields (getArray v param count) (IsArray count (fun _ => True) v) False (itemsIn v) := by
  refine Yields.congr ((Yields.orBail _ _ []).bind fun _ _ => (Yields.ensure _ _).bind fun _ _ => Yields.pure_ok _) ?_ (by simp)
  constructor
  · rintro ⟨⟨items, found⟩, sized, _⟩
    obtain rfl := Cbor.asArray_eq_some.mp found
    exact ⟨items, rfl, sized, fun _ _ => trivial⟩
  · rintro ⟨items, rfl, sized, _⟩
    exact ⟨⟨items, rfl⟩, sized, trivial⟩

/-- Copying panics where the lengths differ. -/
theorem cloneFromSlice_yields (target source : Bytes) :
    Yields (cloneFromSlice target source) True (source.length ≠ target.length) source := by
  by_cases fits : source.length = target.length
  · rw [cloneFromSlice, if_pos fits]
    exact (Yields.pure_ok source).congr Iff.rfl (by simp [fits])
  · rw [cloneFromSlice, if_neg fits]
    constructor <;> simp [fits]

/-- A byte string that is copied into a fixed array of its documented size. -/
theorem copied_yields {β : Type} {target : Bytes} {size : Nat} (param : String) (put : Bytes → β)
    (sized : target.length = size) :
    Yields (do
        let tmp ← getVec v param [size]
        let copied ← cloneFromSlice target tmp
        .ok (put copied) : Outcome β)
      (IsBytes [size] v) False (put (bytesIn v)) := by
  refine Yields.congr ((getVec_yields param [size]).bind fun fits _ =>
    (cloneFromSlice_yields target (bytesIn v)).bind fun _ _ => Yields.pure_ok _) (by simp) ?_
  constructor
  · rintro (none | ⟨⟨bytes, rfl, none | fit⟩, long | ⟨_, none⟩⟩)
    · exact none
    · cases none
    · cases none
    · exact long ((List.mem_singleton.mp fit).trans sized.symm)
    · exact none
  · exact False.elim

/-- A byte string of any size that is copied into an empty slice. -/
theorem squeezed_yields {β : Type} {target : Bytes} (param : String) (put : Bytes → β) (empty : target.length = 0) :
    Yields (do
        let tmp ← getVec v param []
        let copied ← cloneFromSlice target tmp
        .ok (put copied) : Outcome β)
      (IsBytes [] v) (∃ bytes, v = .bytes bytes ∧ bytes ≠ []) (put (bytesIn v)) := by
  refine Yields.congr ((getVec_yields param []).bind fun fits _ =>
    (cloneFromSlice_yields target (bytesIn v)).bind fun _ _ => Yields.pure_ok _) (by simp) ?_
  constructor
  · rintro (none | ⟨⟨bytes, rfl, _⟩, long | ⟨_, none⟩⟩)
    · exact none.elim
    · -- The slice has no room, so it takes nothing but an empty byte string.
      refine ⟨bytes, rfl, fun none => long ?_⟩
      rw [none, empty]
      rfl
    · exact none.elim
  · rintro ⟨bytes, rfl, some⟩
    refine .inr ⟨⟨bytes, rfl, .inl rfl⟩, .inl fun same => some ?_⟩
    exact List.length_eq_zero_iff.mp (same.trans empty)

end Readers

section Labels
variable {β : Type} {set : β → Int → Cbor → Outcome β} {otherType otherKey : String}
  {documented panics : Int → Cbor → Prop} {after : β → List (Cbor × Cbor) → β} {inv : β → Prop}

/-- A decoder that sets one label as documented walks a whole map as documented. -/
theorem setLabels_yields (after_nil : ∀ token, after token [] = token)
    (after_cons : ∀ token entry rest, after token (entry :: rest) = after (after token [entry]) rest)
    (sets : ∀ token label v, inv token →
      Yields (set token label v) (documented label v) (panics label v) (after token [(.integer label, v)]))
    (keeps : ∀ token label v, inv token → documented label v → ¬ panics label v →
      inv (after token [(.integer label, v)]))
    (entries : List (Cbor × Cbor)) (token : β) (holds : inv token) :
    Yields (setLabels set otherKey entries token) (∀ entry ∈ entries, IsEntry documented entry)
      (Reached (IsEntry documented) (IsEntry panics) entries) (after token entries) := by
  induction entries generalizing token with
  | nil =>
    rw [after_nil]
    exact (Yields.pure_ok token).congr (by simp) (by simp [Wire.reached_nil])
  | cons entry rest ih =>
    obtain ⟨key, v⟩ := entry
    cases key with
    | integer label =>
      rw [after_cons]
      refine Yields.congr ((sets token label v holds).bind fun fits calm => ih _ (keeps token label v holds fits calm)) ?_ ?_
      · rw [List.forall_mem_cons, isEntry_integer]
      · rw [Wire.reached_cons, isEntry_integer, isEntry_integer]
    | bytes | float | text | bool | null | tag | array | map =>
      -- A key that is no integer is an error wherever it comes.
      exact (Yields.bail otherKey _).congr (by simp [IsEntry]) (by simp [Wire.reached_cons, IsEntry])

theorem decodeLabels_yields {start : β} (after_nil : ∀ token, after token [] = token)
    (after_cons : ∀ token entry rest, after token (entry :: rest) = after (after token [entry]) rest)
    (sets : ∀ token label v, inv token →
      Yields (set token label v) (documented label v) (panics label v) (after token [(.integer label, v)]))
    (keeps : ∀ token label v, inv token → documented label v → ¬ panics label v →
      inv (after token [(.integer label, v)])) (holds : inv start) (payload : Cbor) :
    Yields (decodeLabels set otherType otherKey start payload) (IsMap documented payload)
      (∃ entries, payload = .map entries ∧ Reached (IsEntry documented) (IsEntry panics) entries)
      (after start (entriesIn payload)) := by
  cases payload with
  | map entries =>
    refine Yields.congr (setLabels_yields after_nil after_cons sets keeps entries start holds) ?_ ?_
    · simp [IsMap]
    · simp
  | integer | bytes | float | text | bool | null | tag | array =>
    exact (Yields.bail otherType _).congr (by simp [IsMap]) (by simp)

end Labels

section Cvm

/-- The documented types and sizes of a CVM payload. -/
def CvmToken.Documented (label : Int) (v : Cbor) : Prop :=
  match label with
  | 10 => IsBytes [64] v
  | 44235 => IsBytes [64] v
  | 44238 => IsBytes [32, 48, 64] v
  | 44239 => IsArray 4 (IsBytes [32, 48, 64]) v
  | 44236 => IsText v
  | 44237 => IsBytes [133, 550] v
  | 44240 => IsText v
  | _ => False

/-- A token with the last occurrence of each label. -/
def CvmToken.after (token : CvmToken) (entries : List (Cbor × Cbor)) : CvmToken where
  challenge := lastOr 10 bytesIn token.challenge entries
  rpv := lastOr 44235 bytesIn token.rpv entries
  rim := lastOr 44238 bytesIn token.rim entries
  rem := lastOr 44239 (fun v i => ((itemsIn v).map bytesIn).getD i []) token.rem entries
  hashAlg := lastOr 44236 textIn token.hashAlg entries
  pubKey := lastOr 44237 bytesIn token.pubKey entries
  pubKeyHashAlg := lastOr 44240 textIn token.pubKeyHashAlg entries

def CvmToken.Sized (token : CvmToken) : Prop := token.challenge.length = 64 ∧ token.rpv.length = 64

theorem setRem_yields (token : CvmToken) (v : Cbor) :
    Yields (setRem token v) (IsArray 4 (IsBytes [32, 48, 64]) v) False
      { token with rem := fun i => ((itemsIn v).map bytesIn).getD i [] } := by
  refine Yields.congr ((getArray_yields "cvm rem" 4).bind fun _ _ => (Yields.mapM _ fun item _ =>
    getVec_yields "cvm rem[\x7bi\x7d]" [32, 48, 64]).bind fun _ _ => Yields.pure_ok _) ?_ ?_
  · constructor
    · rintro ⟨⟨items, rfl, four, _⟩, each, _⟩
      exact ⟨items, rfl, four, each⟩
    · rintro ⟨items, rfl, four, each⟩
      exact ⟨⟨items, rfl, four, fun _ _ => trivial⟩, each, trivial⟩
  · simp [Reached]

theorem CvmToken.set_yields (token : CvmToken) (label : Int) (v : Cbor) (sized : token.Sized) :
    Yields (token.set label v) (Documented label v) False (token.after [(.integer label, v)]) := by
  unfold CvmToken.set CvmToken.Documented CvmToken.after
  simp only [lastOr_entry]
  split
  · exact copied_yields _ _ sized.1
  · exact copied_yields _ _ sized.2
  · exact (getVec_yields _ _).map
  · exact setRem_yields token v
  · exact (getString_yields _).map
  · exact (getVec_yields _ _).map
  · exact (getString_yields _).map
  · -- No documented label is left.
    refine (Yields.bail _ _).congr ?_ Iff.rfl
    simp [*]

theorem CvmToken.after_cons (token : CvmToken) (entry : Cbor × Cbor) (rest : List (Cbor × Cbor)) :
    token.after (entry :: rest) = (token.after [entry]).after rest := by
  simp only [CvmToken.after, ← lastOr_cons]

theorem CvmToken.after_sized (token : CvmToken) (label : Int) (v : Cbor) (sized : token.Sized)
    (documented : Documented label v) : (token.after [(.integer label, v)]).Sized := by
  constructor
  · exact lastOr_documented sized.1 documented id
  · exact lastOr_documented sized.2 documented id

/-- The decoder of a CVM payload never panics. -/
theorem CvmToken.decode_yields (payload : Cbor) :
    Yields (CvmToken.decode payload) (IsMap CvmToken.Documented payload) False
      (CvmToken.new.after (entriesIn payload)) := by
  refine (decodeLabels_yields (fun _ => rfl) CvmToken.after_cons CvmToken.set_yields
    (fun token label v sized fits _ => token.after_sized label v sized fits) ⟨rfl, rfl⟩ payload).congr Iff.rfl ?_
  simp [Reached, IsEntry]

end Cvm

section Platform

def SwComp.Documented (label : Int) (v : Cbor) : Prop :=
  match label with
  | 1 => IsText v
  | 4 => IsText v
  | 2 => IsBytes [32] v
  | 5 => IsBytes [] v
  | 6 => IsText v
  | _ => False

def SwComp.after (comp : SwComp) (entries : List (Cbor × Cbor)) : SwComp where
  firwareName := lastOr 1 textIn comp.firwareName entries
  measurement := lastOr 2 bytesIn comp.measurement entries
  firwareVersion := lastOr 4 textIn comp.firwareVersion entries
  signer := lastOr 5 bytesIn comp.signer entries
  hashAlgorithm := lastOr 6 textIn comp.hashAlgorithm entries

/-- A component in its documented form. -/
def SwComp.of (v : Cbor) : SwComp := SwComp.new.after (entriesIn v)

/-- A signer, which panics unless it is empty. -/
def SwComp.HasSigner (label : Int) (v : Cbor) : Prop := label = 5 ∧ ∃ signer, v = .bytes signer ∧ signer ≠ []

/-- A component with a signer behind labels that are as documented. -/
def SwComp.Unhandled (v : Cbor) : Prop :=
  ∃ entries, v = .map entries ∧ Reached (IsEntry SwComp.Documented) (IsEntry SwComp.HasSigner) entries

def SwComp.Sized (comp : SwComp) : Prop := comp.measurement.length = 32 ∧ comp.signer.length = 0

theorem SwComp.set_yields (comp : SwComp) (label : Int) (v : Cbor) (sized : comp.Sized) :
    Yields (comp.set label v) (Documented label v) (HasSigner label v) (comp.after [(.integer label, v)]) := by
  unfold SwComp.set SwComp.Documented SwComp.after SwComp.HasSigner
  simp only [lastOr_entry]
  split
  · exact (getString_yields _).map.congr Iff.rfl (by simp)
  · exact (getString_yields _).map.congr Iff.rfl (by simp)
  · exact (copied_yields _ _ sized.1).congr Iff.rfl (by simp)
  · exact (squeezed_yields _ _ sized.2).congr Iff.rfl (by simp)
  · exact (getString_yields _).map.congr Iff.rfl (by simp)
  · next other =>
    refine (Yields.bail _ _).congr ?_ ?_
    · simp [*]
    · simp only [false_iff]
      rintro ⟨rfl, _⟩
      contradiction

theorem SwComp.after_cons (comp : SwComp) (entry : Cbor × Cbor) (rest : List (Cbor × Cbor)) :
    comp.after (entry :: rest) = (comp.after [entry]).after rest := by
  simp only [SwComp.after, ← lastOr_cons]

/-- What may stand where the decoder copies into an empty slice without a panic. -/
theorem isBytes_empty {v : Cbor} (fits : IsBytes [] v) (none : ¬ ∃ bytes, v = .bytes bytes ∧ bytes ≠ []) :
    IsBytes [0] v := by
  obtain ⟨bytes, rfl, _⟩ := fits
  refine ⟨bytes, rfl, .inr (List.mem_singleton.mpr ?_)⟩
  by_contra some
  exact none ⟨bytes, rfl, fun empty => some (List.length_eq_zero_iff.mpr empty)⟩

theorem SwComp.after_sized (comp : SwComp) (label : Int) (v : Cbor) (sized : comp.Sized)
    (documented : Documented label v) (calm : ¬ HasSigner label v) : (comp.after [(.integer label, v)]).Sized := by
  constructor
  · exact lastOr_documented sized.1 documented id
  · exact lastOr_length sized.2 fun same => by
      subst same
      exact isBytes_empty documented fun signer => calm ⟨rfl, signer⟩

theorem SwComp.decode_yields (v : Cbor) :
    Yields (SwComp.decode v) (IsMap SwComp.Documented v) (SwComp.Unhandled v) (SwComp.of v) :=
  decodeLabels_yields (fun _ => rfl) SwComp.after_cons SwComp.set_yields SwComp.after_sized ⟨rfl, rfl⟩ v

def PlatformToken.Documented (label : Int) (v : Cbor) : Prop :=
  match label with
  | 265 => IsText v
  | 10 => IsBytes [32] v
  | 2396 => IsBytes [32] v
  | 256 => IsBytes [33] v
  | 2401 => IsBytes [] v
  | 2395 => IsInteger v
  | 2399 => IsArray 6 (IsMap SwComp.Documented) v
  | 2400 => IsText v
  | 2402 => IsText v
  | _ => False

/-- A token with the last occurrence of each label, and the components of all occurrences. -/
def PlatformToken.after (token : PlatformToken) (entries : List (Cbor × Cbor)) : PlatformToken where
  profile := lastOr 265 textIn token.profile entries
  challenge := lastOr 10 bytesIn token.challenge entries
  implementation := lastOr 2396 bytesIn token.implementation entries
  instanceId := lastOr 256 bytesIn token.instanceId entries
  config := lastOr 2401 bytesIn token.config entries
  lifecycle := lastOr 2395 integerIn token.lifecycle entries
  swComponents := token.swComponents ++ (allUnder 2399 entries).flatMap fun v => (itemsIn v).map SwComp.of
  swCompCnts := token.swCompCnts
  verificationService := lastOr 2400 textIn token.verificationService entries
  hashAlgo := lastOr 2402 textIn token.hashAlgo entries

/-- A configuration that is not empty, or components of which one cannot be handled. -/
def PlatformToken.HasConfig (label : Int) (v : Cbor) : Prop :=
  (label = 2401 ∧ ∃ config, v = .bytes config ∧ config ≠ []) ∨
    label = 2399 ∧ ∃ components, v = .array components ∧ components.length = 6 ∧
      Reached (IsMap SwComp.Documented) SwComp.Unhandled components

/-- A configuration or a signer behind labels that are as documented. -/
def PlatformToken.Unhandled (payload : Cbor) : Prop :=
  ∃ entries, payload = .map entries ∧ Reached (IsEntry PlatformToken.Documented) (IsEntry PlatformToken.HasConfig) entries

def PlatformToken.Sized (token : PlatformToken) : Prop :=
  token.challenge.length = 32 ∧ token.implementation.length = 32 ∧ token.instanceId.length = 33 ∧
    token.config.length = 0

theorem setSwComponents_yields (token : PlatformToken) (v : Cbor) :
    Yields (setSwComponents token v) (IsArray 6 (IsMap SwComp.Documented) v)
      (∃ components, v = .array components ∧ components.length = 6 ∧
        Reached (IsMap SwComp.Documented) SwComp.Unhandled components)
      { token with swComponents := token.swComponents ++ (itemsIn v).map SwComp.of } := by
  refine Yields.congr ((getArray_yields "sw_components" 6).bind fun _ _ => (Yields.mapM _ fun item _ =>
    SwComp.decode_yields item).bind fun _ _ => Yields.pure_ok _) ?_ ?_
  · constructor
    · rintro ⟨⟨items, rfl, six, _⟩, each, _⟩
      exact ⟨items, rfl, six, each⟩
    · rintro ⟨items, rfl, six, each⟩
      exact ⟨⟨items, rfl, six, fun _ _ => trivial⟩, each, trivial⟩
  · constructor
    · rintro (none | ⟨⟨items, rfl, six, _⟩, reached | ⟨_, none⟩⟩)
      · exact none.elim
      · exact ⟨items, rfl, six, reached⟩
      · exact none.elim
    · rintro ⟨items, rfl, six, reached⟩
      exact .inr ⟨⟨items, rfl, six, fun _ _ => trivial⟩, .inl reached⟩

theorem PlatformToken.set_yields (token : PlatformToken) (label : Int) (v : Cbor) (sized : token.Sized) :
    Yields (token.set label v) (Documented label v) (HasConfig label v) (token.after [(.integer label, v)]) := by
  unfold PlatformToken.set PlatformToken.Documented PlatformToken.after PlatformToken.HasConfig
  simp only [lastOr_entry, allUnder_entry]
  split
  case h_10 other =>
    refine (Yields.bail _ _).congr ?_ ?_
    · simp [*]
    · simp only [false_iff]
      rintro (⟨rfl, _⟩ | ⟨rfl, _⟩) <;> contradiction
  all_goals simp only [Int.reduceEq, reduceIte, List.flatMap_nil, List.flatMap_singleton, List.append_nil, false_and,
    true_and, false_or, or_false]
  · exact (getString_yields _).map
  · exact copied_yields _ _ sized.1
  · exact copied_yields _ _ sized.2.1
  · exact copied_yields _ _ sized.2.2.1
  · exact squeezed_yields _ _ sized.2.2.2
  · exact (getNum_yields _).map
  · exact setSwComponents_yields token v
  · exact (getString_yields _).map
  · exact (getString_yields _).map

theorem PlatformToken.after_cons (token : PlatformToken) (entry : Cbor × Cbor) (rest : List (Cbor × Cbor)) :
    token.after (entry :: rest) = (token.after [entry]).after rest := by
  simp only [PlatformToken.after, ← lastOr_cons]
  rw [allUnder_cons, List.flatMap_append, List.append_assoc]

theorem PlatformToken.after_nil (token : PlatformToken) : token.after [] = token := by
  simp [PlatformToken.after, lastOr_nil, allUnder]

theorem PlatformToken.after_sized (token : PlatformToken) (label : Int) (v : Cbor) (sized : token.Sized)
    (documented : Documented label v) (calm : ¬ HasConfig label v) : (token.after [(.integer label, v)]).Sized := by
  refine ⟨?_, ?_, ?_, ?_⟩
  · exact lastOr_documented sized.1 documented id
  · exact lastOr_documented sized.2.1 documented id
  · exact lastOr_documented sized.2.2.1 documented id
  · exact lastOr_length sized.2.2.2 fun same => by
      subst same
      exact isBytes_empty documented fun config => calm (.inl ⟨rfl, config⟩)

theorem PlatformToken.decode_yields (payload : Cbor) :
    Yields (PlatformToken.decode payload) (IsMap PlatformToken.Documented payload) (PlatformToken.Unhandled payload)
      (PlatformToken.new.after (entriesIn payload)) :=
  decodeLabels_yields PlatformToken.after_nil PlatformToken.after_cons PlatformToken.set_yields
    PlatformToken.after_sized ⟨rfl, rfl, rfl, rfl⟩ payload

end Platform

section Faithful

/-- The decoder does not panic on a payload; it accepts it exactly when it is a map of
documented labels, and then returns the token that the documentation says. -/
def Faithful {β : Type} (decode : Cbor → Outcome β) (documented : Int → Cbor → Prop)
    (read : List (Cbor × Cbor) → β) (payload : Cbor) : Prop :=
  decode payload ≠ .error .panic ∧
    ∀ token, decode payload = .ok token ↔ IsMap documented payload ∧ token = read (entriesIn payload)

/-- The decoder of a CVM payload is faithful everywhere; the others are where they do not
come to a configuration or a signer that is not empty. -/
theorem decode_faithful_iff (payload : Cbor) :
    Faithful CvmToken.decode CvmToken.Documented CvmToken.new.after payload ∧
      (Faithful SwComp.decode SwComp.Documented SwComp.new.after payload ↔ ¬ SwComp.Unhandled payload) ∧
      (Faithful PlatformToken.decode PlatformToken.Documented PlatformToken.new.after payload ↔
        ¬ PlatformToken.Unhandled payload) :=
  ⟨(CvmToken.decode_yields payload).faithful_iff.mpr not_false, (SwComp.decode_yields payload).faithful_iff,
    (PlatformToken.decode_yields payload).faithful_iff⟩

/-- A documented configuration of one byte. -/
theorem config_panics :
    IsMap PlatformToken.Documented (.map [(.integer 2401, .bytes [1])]) ∧
      PlatformToken.decode (.map [(.integer 2401, .bytes [1])]) = .error .panic ∧
      ¬ Faithful PlatformToken.decode PlatformToken.Documented PlatformToken.new.after
        (.map [(.integer 2401, .bytes [1])]) := by
  refine ⟨⟨_, rfl, ?_⟩, rfl, fun faithful => faithful.1 rfl⟩
  rintro _ (_ | ⟨_, ⟨⟩⟩)
  exact ⟨2401, rfl, [1], rfl, .inl rfl⟩

end Faithful

end UnifiedAttestation.Virtcca
