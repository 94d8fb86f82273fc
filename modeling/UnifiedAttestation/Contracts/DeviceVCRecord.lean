import UnifiedAttestation.Wire.Reader
import Mathlib.Data.List.Induction

/-! The contract that keeps the credentials of devices on a chain.

A run is a list of transactions from any senders. What the contract has become is told by
those that were not reverted: its owner is the last one to whom the contract was handed
over, and the entries of a device are the credentials stored for it.
-/

set_option autoImplicit false

namespace UnifiedAttestation.Contracts

open Wire (Bytes ensure)

section Contract

abbrev Address := BitVec 160
abbrev Bytes32 := BitVec 256
abbrev Uint256 := BitVec 256

structure VCEntry where
  vcJson : Bytes
  timestamp : Uint256
  deriving DecidableEq

structure DeviceVCRecord where
  owner : Address
  vcs : Bytes32 → List VCEntry

inductive Event where
  | VCStored (devicePubkeyHash : Bytes32) (timestamp : Uint256)
  | OwnershipTransferred (previousOwner newOwner : Address)
  deriving DecidableEq

inductive Call where
  | storeVC (devicePubkeyHash : Bytes32) (vcJson : Bytes)
  | transferOwnership (newOwner : Address)
  deriving DecidableEq

/-- A call with `msg.sender` and `block.timestamp`. -/
structure Transaction where
  sender : Address
  timestamp : Uint256
  call : Call
  deriving DecidableEq

/-- The constructor. -/
def deploy (sender : Address) : DeviceVCRecord := ⟨sender, fun _ => []⟩

variable (record : DeviceVCRecord)

def onlyOwner (sender : Address) : Except String Unit := ensure (sender = record.owner) "only owner"

def storeVC (sender : Address) (timestamp : Uint256) (devicePubkeyHash : Bytes32) (vcJson : Bytes) :
    Except String (DeviceVCRecord × Event) := do
  onlyOwner record sender
  let entries := record.vcs devicePubkeyHash ++ [⟨vcJson, timestamp⟩]
  .ok ({ record with vcs := fun hash => if hash = devicePubkeyHash then entries else record.vcs hash },
    .VCStored devicePubkeyHash timestamp)

def transferOwnership (sender newOwner : Address) : Except String (DeviceVCRecord × Event) := do
  onlyOwner record sender
  ensure (newOwner ≠ 0) "zero address"
  .ok ({ record with owner := newOwner }, .OwnershipTransferred record.owner newOwner)

def execute (tx : Transaction) : Except String (DeviceVCRecord × Event) :=
  match tx.call with
  | .storeVC devicePubkeyHash vcJson => storeVC record tx.sender tx.timestamp devicePubkeyHash vcJson
  | .transferOwnership newOwner => transferOwnership record tx.sender newOwner

/-- The contract and what the chain has logged of it. -/
structure Chain where
  record : DeviceVCRecord
  log : List Event

/-- A transaction is carried out, or reverted without a trace. -/
def Chain.transact (chain : Chain) (tx : Transaction) : Chain :=
  match execute chain.record tx with
  | .error _ => chain
  | .ok (record, event) => { record, log := chain.log ++ [event] }

def run (deployer : Address) (txs : List Transaction) : Chain := txs.foldl Chain.transact ⟨deploy deployer, []⟩

end Contract

section History

def Call.receiver : Call → Option Address
  | .storeVC _ _ => none
  | .transferOwnership newOwner => some newOwner

/-- Whom a history of carried out transactions makes the owner. -/
def ownerOf (deployer : Address) (history : List Transaction) : Address :=
  ((history.filterMap fun tx => tx.call.receiver).getLast?).getD deployer

/-- The credential that a transaction stores for a device. -/
def Transaction.entry (hash : Bytes32) (tx : Transaction) : Option VCEntry :=
  match tx.call with
  | .storeVC devicePubkeyHash vcJson => if hash = devicePubkeyHash then some ⟨vcJson, tx.timestamp⟩ else none
  | .transferOwnership _ => none

def entriesOf (history : List Transaction) (hash : Bytes32) : List VCEntry :=
  history.filterMap (Transaction.entry hash)

def eventOf (deployer : Address) (history : List Transaction) (tx : Transaction) : Event :=
  match tx.call with
  | .storeVC devicePubkeyHash _ => .VCStored devicePubkeyHash tx.timestamp
  | .transferOwnership newOwner => .OwnershipTransferred (ownerOf deployer history) newOwner

/-- The transactions that are carried out: those of the owner, but for a transfer to nobody. -/
def Permitted (deployer : Address) (history : List Transaction) (tx : Transaction) : Prop :=
  tx.sender = ownerOf deployer history ∧ tx.call.receiver ≠ some 0

instance decidablePermitted (deployer : Address) (history : List Transaction) (tx : Transaction) :
    Decidable (Permitted deployer history tx) :=
  inferInstanceAs (Decidable (_ ∧ _))

def carry (deployer : Address) (history : List Transaction) (tx : Transaction) : List Transaction :=
  if Permitted deployer history tx then history ++ [tx] else history

/-- The log of a history. -/
def logOf (deployer : Address) (history : List Transaction) : List Event :=
  history.mapIdx fun position tx => eventOf deployer (history.take position) tx

variable {deployer : Address} {history : List Transaction} {tx : Transaction}

theorem ownerOf_concat : ownerOf deployer (history ++ [tx]) = tx.call.receiver.getD (ownerOf deployer history) := by
  cases received : tx.call.receiver with
  | none => simp [ownerOf, received]
  | some newOwner => simp [ownerOf, received]

theorem entriesOf_concat (hash : Bytes32) :
    entriesOf (history ++ [tx]) hash = entriesOf history hash ++ (tx.entry hash).toList := by
  rw [entriesOf, List.filterMap_append, entriesOf]
  cases entered : tx.entry hash <;> simp [entered]

theorem logOf_concat : logOf deployer (history ++ [tx]) = logOf deployer history ++ [eventOf deployer history tx] := by
  rw [logOf, List.mapIdx_concat, List.take_left, logOf]
  congr 1
  apply List.mapIdx_eq_mapIdx_iff.mpr
  intro position inside
  rw [List.take_append_of_le_length (Nat.le_of_lt inside)]

end History

section Refinement
variable {deployer : Address} {chain : Chain} {history : List Transaction}

/-- The chain is what the history makes of it. -/
structure Tells (deployer : Address) (history : List Transaction) (chain : Chain) : Prop where
  owner : chain.record.owner = ownerOf deployer history
  entries : ∀ hash, chain.record.vcs hash = entriesOf history hash
  log : chain.log = logOf deployer history

theorem Tells.execute_ok (tells : Tells deployer history chain) {tx : Transaction}
    (permitted : Permitted deployer history tx) :
    ∃ record, execute chain.record tx = .ok (record, eventOf deployer history tx) ∧
      Tells deployer (history ++ [tx]) ⟨record, chain.log ++ [eventOf deployer history tx]⟩ := by
  obtain ⟨sender, receiver⟩ := permitted
  have owned : onlyOwner chain.record tx.sender = .ok () := by
    rw [onlyOwner, sender, tells.owner]
    exact if_pos rfl
  have logged : chain.log ++ [eventOf deployer history tx] = logOf deployer (history ++ [tx]) := by
    rw [logOf_concat, tells.log]
  cases made : tx.call with
  | storeVC devicePubkeyHash vcJson =>
    simp only [execute, made, storeVC, owned, eventOf, bind, Except.bind]
    refine ⟨_, rfl, ?_, fun hash => ?_, by simpa only [eventOf, made] using logged⟩
    · rw [ownerOf_concat, made]
      exact tells.owner
    · rw [entriesOf_concat, ← tells.entries]
      by_cases here : hash = devicePubkeyHash
      · subst here
        simp [Transaction.entry, made]
      · simp [Transaction.entry, made, here]
  | transferOwnership newOwner =>
    have somebody : newOwner ≠ 0 := by
      rintro rfl
      exact receiver (by rw [made]; rfl)
    simp only [execute, made, transferOwnership, owned, eventOf, ensure, bind, Except.bind, somebody, ne_eq,
      not_false_eq_true, if_true, tells.owner]
    refine ⟨_, rfl, ?_, fun hash => ?_, by simpa only [eventOf, made] using logged⟩
    · rw [ownerOf_concat, made]
      rfl
    · rw [entriesOf_concat, ← tells.entries]
      simp [Transaction.entry, made]

theorem Tells.execute_error (tells : Tells deployer history chain) {tx : Transaction}
    (refused : ¬ Permitted deployer history tx) : ∃ reason, execute chain.record tx = .error reason := by
  by_cases owned : tx.sender = chain.record.owner
  · have nobody : tx.call.receiver = some 0 := by
      by_contra somebody
      exact refused ⟨owned.trans tells.owner, somebody⟩
    cases made : tx.call with
    | storeVC devicePubkeyHash vcJson =>
      rw [made] at nobody
      cases nobody
    | transferOwnership newOwner =>
      rw [made] at nobody
      obtain rfl := Option.some.inj nobody
      exact ⟨"zero address", by simp [execute, made, transferOwnership, onlyOwner, owned, ensure, bind, Except.bind]⟩
  · refine ⟨"only owner", ?_⟩
    cases made : tx.call with
    | storeVC devicePubkeyHash vcJson => simp [execute, made, storeVC, onlyOwner, owned, ensure, bind, Except.bind]
    | transferOwnership newOwner =>
      simp [execute, made, transferOwnership, onlyOwner, owned, ensure, bind, Except.bind]

theorem Tells.transact (tells : Tells deployer history chain) (tx : Transaction) :
    Tells deployer (carry deployer history tx) (chain.transact tx) := by
  rw [carry]
  split
  · rename_i permitted
    obtain ⟨record, executed, told⟩ := tells.execute_ok permitted
    rwa [Chain.transact, executed]
  · rename_i refused
    obtain ⟨reason, reverted⟩ := tells.execute_error refused
    rwa [Chain.transact, reverted]

end Refinement

section Runs
variable {deployer : Address}

def Event.newOwner : Event → Option Address
  | .VCStored _ _ => none
  | .OwnershipTransferred _ newOwner => some newOwner

/-- Every transaction of a history was the owner's at its time. -/
def Lawful (deployer : Address) (history : List Transaction) : Prop :=
  ∀ position tx, history[position]? = some tx → Permitted deployer (history.take position) tx

theorem Lawful.carry {history : List Transaction} (lawful : Lawful deployer history) (tx : Transaction) :
    Lawful deployer (carry deployer history tx) := by
  unfold Contracts.carry
  split
  · rename_i permitted
    intro position other found
    by_cases last : position < history.length
    · rw [List.getElem?_append_left last] at found
      rw [List.take_append_of_le_length (Nat.le_of_lt last)]
      exact lawful position other found
    · have inside := (List.getElem?_eq_some_iff.mp found).1
      rw [List.length_append, List.length_singleton] at inside
      obtain rfl : position = history.length := by omega
      rw [List.getElem?_concat_length] at found
      obtain rfl := Option.some.inj found
      rwa [List.take_left]
  · exact lawful

theorem Tells.unique {history : List Transaction} {chain other : Chain} (tells : Tells deployer history chain)
    (tells' : Tells deployer history other) : chain = other := by
  obtain ⟨⟨owner, vcs⟩, log⟩ := chain
  obtain ⟨⟨owner', vcs'⟩, log'⟩ := other
  obtain rfl : owner = owner' := tells.owner.trans tells'.owner.symm
  obtain rfl : vcs = vcs' := funext fun hash => (tells.entries hash).trans (tells'.entries hash).symm
  obtain rfl : log = log' := tells.log.trans tells'.log.symm
  rfl

end Runs

end UnifiedAttestation.Contracts
