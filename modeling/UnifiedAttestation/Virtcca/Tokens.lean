import UnifiedAttestation.Eventlog.Report

/-! The payloads of VirtCCA tokens.

A payload is a CBOR map from integer labels; each label sets one field of a token that
starts from default values. Unknown labels and values of another shape are errors.
-/

set_option autoImplicit false

namespace UnifiedAttestation.Virtcca

open Wire (Bytes Outcome bail orBail)
open Eventlog (Rems)

section Cbor

/-- A CBOR item; floats by their bits. -/
inductive Cbor where
  | integer (value : Int)
  | bytes (value : Bytes)
  | float (bits : UInt64)
  | text (value : String)
  | bool (value : Bool)
  | null
  | tag (number : Nat) (item : Cbor)
  | array (items : List Cbor)
  | map (entries : List (Cbor × Cbor))

namespace Cbor

def asInteger : Cbor → Option Int
  | .integer value => some value
  | _ => none

def asBytes : Cbor → Option Bytes
  | .bytes value => some value
  | _ => none

def asText : Cbor → Option String
  | .text value => some value
  | _ => none

def asArray : Cbor → Option (List Cbor)
  | .array items => some items
  | _ => none

variable {v : Cbor}

theorem asInteger_eq_some {value : Int} : v.asInteger = some value ↔ v = .integer value := by
  cases v <;> simp [asInteger]

theorem asBytes_eq_some {value : Bytes} : v.asBytes = some value ↔ v = .bytes value := by
  cases v <;> simp [asBytes]

theorem asText_eq_some {value : String} : v.asText = some value ↔ v = .text value := by
  cases v <;> simp [asText]

theorem asArray_eq_some {items : List Cbor} : v.asArray = some items ↔ v = .array items := by
  cases v <;> simp [asArray]

end Cbor

def getVec (v : Cbor) (param : String) (size : List Nat) : Outcome Bytes := do
  let tmp ← orBail s!"{param} is none" v.asBytes
  Wire.ensure (size = [] ∨ tmp.length ∈ size) (.error [s!"{param} expecting {size} bytes, got {tmp.length}"])
  .ok tmp

def getString (v : Cbor) (param : String) : Outcome String :=
  (orBail s!" {param} must be str" v.asText).map Grpc.trimEndNul

def getNum (v : Cbor) (param : String) : Outcome Int := orBail s!" {param} must be num" v.asInteger

def getArray (v : Cbor) (param : String) (arraySize : Nat) : Outcome (List Cbor) := do
  let tmp ← orBail s!" {param} must be array" v.asArray
  Wire.ensure (tmp.length = arraySize) (.error [s!"{param} expecting size {arraySize}, got {tmp.length}"])
  .ok tmp

/-- `target[..].clone_from_slice(&source)`. -/
def cloneFromSlice (target source : Bytes) : Outcome Bytes :=
  if source.length = target.length then .ok source else .error .panic

/-- Set the field of every label of a map, in order. -/
def setLabels {β : Type} (set : β → Int → Cbor → Outcome β) (otherKey : String) : List (Cbor × Cbor) → β → Outcome β
  | [], token => .ok token
  | (.integer label, value) :: rest, token => do
    let token ← set token label value
    setLabels set otherKey rest token
  | _ :: _, _ => bail otherKey

/-- A payload that must be a map of labels. -/
def decodeLabels {β : Type} (set : β → Int → Cbor → Outcome β) (otherType otherKey : String) (start : β) :
    Cbor → Outcome β
  | .map entries => setLabels set otherKey entries start
  | _ => bail otherType

/-- The value under the last occurrence of a label. -/
def lastUnder (label : Int) : List (Cbor × Cbor) → Option Cbor
  | [] => none
  | (key, value) :: rest => (lastUnder label rest).or (if key.asInteger = some label then some value else none)

end Cbor

section Cvm

structure CvmToken where
  challenge : Bytes
  rpv : Bytes
  rim : Bytes
  rem : Rems
  hashAlg : String
  pubKey : Bytes
  pubKeyHashAlg : String

def CvmToken.new : CvmToken where
  challenge := List.replicate 64 0
  rpv := List.replicate 64 0
  rim := []
  rem _ := []
  hashAlg := ""
  pubKey := []
  pubKeyHashAlg := ""

def setChallenge (token : CvmToken) (v : Cbor) : Outcome CvmToken := do
  let tmp ← getVec v "cvm challenge" [64]
  let challenge ← cloneFromSlice token.challenge tmp
  .ok { token with challenge }

def setRpv (token : CvmToken) (v : Cbor) : Outcome CvmToken := do
  let tmp ← getVec v "cvm rpv" [64]
  let rpv ← cloneFromSlice token.rpv tmp
  .ok { token with rpv }

def setRem (token : CvmToken) (v : Cbor) : Outcome CvmToken := do
  let tmp ← getArray v "cvm rem" 4
  let rem ← tmp.mapM fun val => getVec val "cvm rem[\x7bi\x7d]" [32, 48, 64]
  .ok { token with rem := fun i => rem.getD i [] }

def CvmToken.set (token : CvmToken) (label : Int) (v : Cbor) : Outcome CvmToken :=
  match label with
  | 10 => setChallenge token v
  | 44235 => setRpv token v
  | 44238 => (getVec v "cvm rim" [32, 48, 64]).map fun rim => { token with rim }
  | 44239 => setRem token v
  | 44236 => (getString v "cvm hash alg").map fun hashAlg => { token with hashAlg }
  | 44237 => (getVec v "cvm pub key" [133, 550]).map fun pubKey => { token with pubKey }
  | 44240 => (getString v "cvm pub key hash alg").map fun pubKeyHashAlg => { token with pubKeyHashAlg }
  | other => bail s!"cvm payload unknown label {other}"

/-- `CvmToken::decode` behind the two CBOR readers. -/
def CvmToken.decode (payload : Cbor) : Outcome CvmToken :=
  decodeLabels CvmToken.set "expecting cvm payload map type" "cvm payload expecting integer key" .new payload

end Cvm

section Platform

structure SwComp where
  firwareName : String
  measurement : Bytes
  firwareVersion : String
  signer : Bytes
  hashAlgorithm : String

def SwComp.new : SwComp where
  firwareName := ""
  measurement := List.replicate 32 0
  firwareVersion := ""
  signer := []
  hashAlgorithm := ""

def setMeasurement (comp : SwComp) (v : Cbor) : Outcome SwComp := do
  let tmp ← getVec v "measurement" [32]
  let measurement ← cloneFromSlice comp.measurement tmp
  .ok { comp with measurement }

/-- The signer is still empty, so that any other length is a panic. -/
def setSigner (comp : SwComp) (v : Cbor) : Outcome SwComp := do
  let tmp ← getVec v "signer" []
  let signer ← cloneFromSlice comp.signer tmp
  .ok { comp with signer }

def SwComp.set (comp : SwComp) (label : Int) (v : Cbor) : Outcome SwComp :=
  match label with
  | 1 => (getString v "component_type").map fun firwareName => { comp with firwareName }
  | 4 => (getString v "version").map fun firwareVersion => { comp with firwareVersion }
  | 2 => setMeasurement comp v
  | 5 => setSigner comp v
  | 6 => (getString v "hash_algo").map fun hashAlgorithm => { comp with hashAlgorithm }
  | other => bail s!"sw_comp payload unknown label {other}"

def SwComp.decode (v : Cbor) : Outcome SwComp :=
  decodeLabels SwComp.set "expecting sw_comp payload map type" "Un-supported label type" .new v

structure PlatformToken where
  profile : String
  challenge : Bytes
  implementation : Bytes
  instanceId : Bytes
  config : Bytes
  lifecycle : Int
  swComponents : List SwComp
  swCompCnts : Int
  verificationService : String
  hashAlgo : String

def PlatformToken.new : PlatformToken where
  profile := ""
  challenge := List.replicate 32 0
  implementation := List.replicate 32 0
  instanceId := List.replicate 33 0
  config := []
  lifecycle := 0
  swComponents := []
  swCompCnts := 0
  verificationService := ""
  hashAlgo := ""

def setConfig (token : PlatformToken) (v : Cbor) : Outcome PlatformToken := do
  let tmp ← getVec v "config" []
  let config ← cloneFromSlice token.config tmp
  .ok { token with config }

def setPlatformChallenge (token : PlatformToken) (v : Cbor) : Outcome PlatformToken := do
  let tmp ← getVec v "challenge" [32]
  let challenge ← cloneFromSlice token.challenge tmp
  .ok { token with challenge }

def setImplementation (token : PlatformToken) (v : Cbor) : Outcome PlatformToken := do
  let tmp ← getVec v "implementation id" [32]
  let implementation ← cloneFromSlice token.implementation tmp
  .ok { token with implementation }

def setInstance (token : PlatformToken) (v : Cbor) : Outcome PlatformToken := do
  let tmp ← getVec v "instance id" [33]
  let instanceId ← cloneFromSlice token.instanceId tmp
  .ok { token with instanceId }

/-- The components are added to those of an earlier occurrence of the label. -/
def setSwComponents (token : PlatformToken) (v : Cbor) : Outcome PlatformToken := do
  let tmp ← getArray v "sw_components" 6
  let components ← tmp.mapM SwComp.decode
  .ok { token with swComponents := token.swComponents ++ components }

def PlatformToken.set (token : PlatformToken) (label : Int) (v : Cbor) : Outcome PlatformToken :=
  match label with
  | 265 => (getString v "profile").map fun profile => { token with profile }
  | 10 => setPlatformChallenge token v
  | 2396 => setImplementation token v
  | 256 => setInstance token v
  | 2401 => setConfig token v
  | 2395 => (getNum v "lifecycle").map fun lifecycle => { token with lifecycle }
  | 2399 => setSwComponents token v
  | 2400 => (getString v "verification_service").map fun verificationService => { token with verificationService }
  | 2402 => (getString v "cvm token").map fun hashAlgo => { token with hashAlgo }
  | other => bail s!"platform_token payload unknown label {other}"

def PlatformToken.decode (payload : Cbor) : Outcome PlatformToken :=
  decodeLabels PlatformToken.set "expecting platform_token payload map type"
    "platform_token payload expecting integer key" .new payload

end Platform

section Labels

theorem cloneFromSlice_eq_ok {target source result : Bytes} (copied : cloneFromSlice target source = .ok result) :
    result = source := by
  by_cases fits : source.length = target.length
  · rw [cloneFromSlice, if_pos fits] at copied
    exact (Except.ok.inj copied).symm
  · rw [cloneFromSlice, if_neg fits] at copied
    cases copied

theorem getVec_eq_ok {v : Cbor} {param : String} {size : List Nat} {result : Bytes}
    (got : getVec v param size = .ok result) : v = .bytes result := by
  simp only [getVec, Wire.bind_eq_ok, Wire.orBail_eq_ok, Wire.ensure_eq_ok] at got
  obtain ⟨tmp, shape, _, _, same⟩ := got
  cases same
  exact Cbor.asBytes_eq_some.mp shape

/-- A field that one label alone sets holds what was last found under it. -/
theorem setLabels_field {β γ : Type} {set : β → Int → Cbor → Outcome β} {otherKey : String} (field : β → γ)
    {label : Int} (holds : γ → Cbor → Prop)
    (sets : ∀ token v next, set token label v = .ok next → holds (field next) v)
    (keeps : ∀ token other v next, other ≠ label → set token other v = .ok next → field next = field token)
    {entries : List (Cbor × Cbor)} {token final : β} (walked : setLabels set otherKey entries token = .ok final) :
    (∃ v, lastUnder label entries = some v ∧ holds (field final) v) ∨
      lastUnder label entries = none ∧ field final = field token := by
  induction entries generalizing token with
  | nil =>
    cases walked
    exact .inr ⟨rfl, rfl⟩
  | cons entry rest ih =>
    obtain ⟨key, value⟩ := entry
    cases key with
    | integer found =>
      obtain ⟨next, first, later⟩ := Wire.bind_eq_ok.mp walked
      rcases ih later with ⟨v, last, held⟩ | ⟨none, same⟩
      · exact .inl ⟨v, by rw [lastUnder, last, Option.some_or], held⟩
      · by_cases here : found = label
        · subst here
          refine .inl ⟨value, by simp [lastUnder, none, Cbor.asInteger], ?_⟩
          rw [same]
          exact sets token value next first
        · refine .inr ⟨by simp [lastUnder, none, Cbor.asInteger, here], ?_⟩
          rw [same]
          exact keeps token found value next here first
    | bytes | float | text | bool | null | tag | array | map => cases walked

theorem setPlatformChallenge_ok {token next : PlatformToken} {v : Cbor}
    (set : setPlatformChallenge token v = .ok next) : v = .bytes next.challenge := by
  simp only [setPlatformChallenge, Wire.bind_eq_ok] at set
  obtain ⟨tmp, got, challenge, copied, same⟩ := set
  cases same
  rw [getVec_eq_ok got, cloneFromSlice_eq_ok copied]

theorem PlatformToken.set_challenge {token next : PlatformToken} {label : Int} {v : Cbor} (other : label ≠ 10)
    (set : token.set label v = .ok next) : next.challenge = token.challenge := by
  unfold PlatformToken.set at set
  split at set
  case h_2 => exact absurd rfl other
  case h_10 => cases set
  all_goals
    simp only [Wire.map_eq_ok, setImplementation, setInstance, setConfig, setSwComponents, Wire.bind_eq_ok] at set
    first
      | (obtain ⟨_, _, rfl⟩ := set; rfl)
      | (obtain ⟨_, _, _, _, same⟩ := set; cases same; rfl)

/-- The challenge of a decoded platform token is the last one of its payload, or zeros. -/
theorem PlatformToken.decode_challenge {payload : Cbor} {token : PlatformToken}
    (decoded : PlatformToken.decode payload = .ok token) :
    ∃ entries, payload = .map entries ∧ (lastUnder 10 entries = some (.bytes token.challenge) ∨
      lastUnder 10 entries = none ∧ token.challenge = List.replicate 32 0) := by
  cases payload with
  | map entries =>
    refine ⟨entries, rfl, ?_⟩
    rcases setLabels_field PlatformToken.challenge (fun challenge v => v = .bytes challenge)
      (fun token v next set => setPlatformChallenge_ok set)
      (fun token other v next differs set => PlatformToken.set_challenge differs set) decoded with
      ⟨v, last, same⟩ | ⟨none, same⟩
    · exact .inl (same ▸ last)
    · exact .inr ⟨none, same⟩
  | integer | bytes | float | text | bool | null | tag | array => cases decoded

end Labels

end UnifiedAttestation.Virtcca
