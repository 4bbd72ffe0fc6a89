import OpenZk.DisputeSystem
import OpenZk.Engine

set_option autoImplicit false

namespace OpenZk.RpcMonitor

open Words

inductive BlockTag where
  | finalized
  | safe
deriving DecidableEq

structure Header where
  hash : Bytes32
  number : UInt64

inductive ContractCall where
  | latestBlockNumber
  | isDisputed (blockNumber : UInt64)
deriving DecidableEq

structure Node where
  blockByNumber : BlockTag → Except String (Option Header)
  call : Address → ContractCall → Except String Bytes

inductive RpcMonitorError where
  | l1Rpc (message : String)
  | l2Rpc (message : String)
  | contract (message : String)
  | urlParse (message : String)
deriving DecidableEq

structure RpcChainMonitor where
  l1RpcUrl : String
  l2RpcUrl : String
  oracleAddress : Address
  disputeAddress : Option Address

def new (parse : String → Except String String) (l1RpcUrl l2RpcUrl : String) (oracleAddress : Address) :
    Except RpcMonitorError RpcChainMonitor :=
  match parse l1RpcUrl with
  | .error reason => .error (.urlParse reason)
  | .ok l1 =>
      match parse l2RpcUrl with
      | .error reason => .error (.urlParse reason)
      | .ok l2 => .ok ⟨l1, l2, oracleAddress, none⟩

def withDisputeAddress (monitor : RpcChainMonitor) (address : Address) : RpcChainMonitor :=
  { monitor with disputeAddress := some address }

def decodeUint64 (response : Bytes) : UInt64 := UInt64.ofNat (bigEndian (slice response 24 32))

def getState (connect : String → Node) (monitor : RpcChainMonitor) : Except RpcMonitorError ChainState :=
  match (connect monitor.l1RpcUrl).blockByNumber .finalized with
  | .error reason => .error (.l1Rpc reason)
  | .ok none => .error (.l1Rpc "finalized block not found")
  | .ok (some l1Block) =>
      match (connect monitor.l2RpcUrl).blockByNumber .safe with
      | .error reason => .error (.l2Rpc reason)
      | .ok none => .error (.l2Rpc "safe block not found")
      | .ok (some l2Block) =>
          match (connect monitor.l1RpcUrl).call monitor.oracleAddress .latestBlockNumber with
          | .error reason => .error (.contract reason)
          | .ok callResult =>
              let l2ProvenBlock := if callResult.length ≥ 32 then decodeUint64 callResult else 0
              .ok ⟨l1Block.hash, l2ProvenBlock, l2Block.number⟩

def activeDispute (connect : String → Node) (monitor : RpcChainMonitor) : Option DisputeInfo :=
  monitor.disputeAddress.bind fun disputeAddress =>
  match (connect monitor.l1RpcUrl).call monitor.oracleAddress .latestBlockNumber with
  -- Every failure on the way reads as no dispute.
  | .error _ => none
  | .ok callResult =>
      if callResult.length < 32 then none
      else
        let latestBlock := decodeUint64 callResult
        match (connect monitor.l1RpcUrl).call disputeAddress (.isDisputed latestBlock) with
        | .error _ => none
        | .ok disputedResult =>
            if disputedResult.length ≥ 32 ∧ disputedResult.getD 31 0 = 1 then some ⟨latestBlock, latestBlock⟩ else none

def abiUint64 (number : UInt64) : Bytes := (wordOfNat number.toNat).data

def abiBool (answer : Bool) : Bytes := (wordOfNat answer.toNat).data

structure Serves (node : Node) (oracleAddress disputeAddress : Address) (s : System.State) : Prop where
  latestBlockNumber : node.call oracleAddress .latestBlockNumber = .ok (abiUint64 s.oracle.latestBlockNumber)
  isDisputed : ∀ number, node.call disputeAddress (.isDisputed number) =
    .ok (abiBool (DisputeGame.isDisputed s.game number))

theorem abi_uint64_length (number : UInt64) : (abiUint64 number).length = 32 := (wordOfNat number.toNat).size

theorem abi_bool_length (answer : Bool) : (abiBool answer).length = 32 := (wordOfNat answer.toNat).size

theorem decode_abi_uint64 (number : UInt64) : decodeUint64 (abiUint64 number) = number := by
  have halves : abiUint64 number = toBigEndian 24 (number.toNat / 256 ^ 8) ++ (toBigEndian 8 number.toNat ++ []) := by
    rw [List.append_nil, ← to_big_endian_split]
    rfl
  have low : slice (abiUint64 number) 24 32 = toBigEndian 8 number.toNat := by
    rw [halves]
    exact slice_middle _ _ _ 24 32 (to_big_endian_length _ _) (by rw [to_big_endian_length])
  have bound : number.toNat < 256 ^ 8 := Nat.lt_of_lt_of_eq number.toNat_lt (by decide)
  rw [decodeUint64, low, big_endian_to_big_endian, Nat.mod_eq_of_lt bound, UInt64.ofNat_toNat]

theorem abi_bool_flag (answer : Bool) : (abiBool answer).getD 31 0 = 1 ↔ answer = true := by
  cases answer with
  | false => decide
  | true => decide

theorem get_state_served (connect : String → Node) (monitor : RpcChainMonitor) (disputeAddress : Address)
    (s : System.State) (finalized safe : Header)
    (serves : Serves (connect monitor.l1RpcUrl) monitor.oracleAddress disputeAddress s)
    (l1 : (connect monitor.l1RpcUrl).blockByNumber .finalized = .ok (some finalized))
    (l2 : (connect monitor.l2RpcUrl).blockByNumber .safe = .ok (some safe)) :
    getState connect monitor = .ok ⟨finalized.hash, s.oracle.latestBlockNumber, safe.number⟩ := by
  have long : (abiUint64 s.oracle.latestBlockNumber).length ≥ 32 := Nat.le_of_eq (abi_uint64_length _).symm
  simp only [getState, l1, l2, serves.latestBlockNumber, if_pos long, decode_abi_uint64]

theorem active_dispute_answered (connect : String → Node) (monitor : RpcChainMonitor) (disputeAddress : Address)
    (latest : UInt64) (disputed : Bool) (configured : monitor.disputeAddress = some disputeAddress)
    (latestAnswer : (connect monitor.l1RpcUrl).call monitor.oracleAddress .latestBlockNumber = .ok (abiUint64 latest))
    (disputeAnswer : (connect monitor.l1RpcUrl).call disputeAddress (.isDisputed latest) = .ok (abiBool disputed)) :
    activeDispute connect monitor = if disputed = true then some ⟨latest, latest⟩ else none := by
  have long : ¬ (abiUint64 latest).length < 32 := Nat.not_lt.mpr (Nat.le_of_eq (abi_uint64_length _).symm)
  have flag : (abiBool disputed).length ≥ 32 ∧ (abiBool disputed).getD 31 0 = 1 ↔ disputed = true := by
    rw [abi_bool_flag]
    exact and_iff_right (Nat.le_of_eq (abi_bool_length _).symm)
  simp only [activeDispute, configured, Option.bind_some, latestAnswer, if_neg long, decode_abi_uint64, disputeAnswer, flag]

theorem active_dispute_served (connect : String → Node) (monitor : RpcChainMonitor) (disputeAddress : Address)
    (s : System.State) (configured : monitor.disputeAddress = some disputeAddress)
    (serves : Serves (connect monitor.l1RpcUrl) monitor.oracleAddress disputeAddress s) :
    activeDispute connect monitor =
      if DisputeGame.isDisputed s.game s.oracle.latestBlockNumber = true then
        some ⟨s.oracle.latestBlockNumber, s.oracle.latestBlockNumber⟩
      else none :=
  active_dispute_answered connect monitor disputeAddress _ _ configured serves.latestBlockNumber (serves.isDisputed _)

end OpenZk.RpcMonitor
