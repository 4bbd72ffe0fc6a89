import OpenZk.PreimageStore

set_option autoImplicit false

namespace OpenZk

open Words

inductive TxType where
  | legacy
  | eip2930
  | eip1559
  | eip4844
  | eip7702
deriving DecidableEq

/-- An L1 transaction as the sources read it: recipient is its to, none for a creation; signer is
what signature recovery gives, none if it fails. -/
structure TxEnvelope where
  txType : TxType
  recipient : Option Address
  input : Bytes
  signer : Option Address
deriving DecidableEq

inductive DaLayer where
  | celestia
  | eigenDa
deriving DecidableEq

def celestiaCommitmentPrefix : UInt8 := 0xce

def eigenDaCommitmentPrefix : UInt8 := 0xed

def genericCommitmentPrefix : UInt8 := 0x00

def DaLayer.commitmentPrefix : DaLayer → UInt8
  | .celestia => celestiaCommitmentPrefix
  | .eigenDa => eigenDaCommitmentPrefix

abbrev PreimageOracle := PreimageKey → Except PreimageOracleError Bytes

inductive PipelineError (ε : Type) where
  | provider (reason : ε)
  | eof
deriving DecidableEq

namespace DataSource

structure State where
  batchInboxAddress : Address
  batchData : List Bytes
  opened : Bool
deriving DecidableEq

def new (batchInboxAddress : Address) : State := ⟨batchInboxAddress, [], false⟩

inductive Posting where
  | ignored
  | commitment (bytes : Bytes)
  | calldata (bytes : Bytes)
deriving DecidableEq

def readsType (txType : TxType) : Bool :=
  match txType with
  | .legacy | .eip2930 | .eip1559 => true
  | .eip4844 | .eip7702 => false

def posting (layer : DaLayer) (inbox batcher : Address) (tx : TxEnvelope) : Posting :=
  if !readsType tx.txType then .ignored
  else if tx.recipient ≠ some inbox then .ignored
  else if tx.signer ≠ some batcher then .ignored
  else
    match tx.input with
    | [] => .ignored
    | first :: rest =>
        if first = layer.commitmentPrefix ∨ first = genericCommitmentPrefix then .commitment rest
        else .calldata (first :: rest)

def resolveCommitment (keccak256 : Bytes → Bytes32) (oracle : PreimageOracle) (commitment : Bytes) : Option Bytes :=
  (oracle (PreimageKey.new (keccak256 commitment) .keccak256)).toOption

def loadOne (layer : DaLayer) (keccak256 : Bytes → Bytes32) (oracle : PreimageOracle) (inbox batcher : Address)
    (batchData : List Bytes) (tx : TxEnvelope) : List Bytes :=
  match posting layer inbox batcher tx with
  | .ignored => batchData
  | .commitment bytes =>
      match resolveCommitment keccak256 oracle bytes with
      | some resolved => batchData ++ [resolved]
      -- A commitment that the oracle cannot resolve is passed over without an error.
      | none => batchData
  | .calldata bytes => batchData ++ [bytes]

variable {ε : Type}

def loadBatchData (layer : DaLayer) (keccak256 : Bytes → Bytes32) (oracle : PreimageOracle)
    (answer : Except ε (List TxEnvelope)) (batcher : Address) (s : State) : Except ε State :=
  if s.opened then .ok s
  else
    -- The provider is asked for the block's transactions.
    match answer with
    | .error reason => .error reason
    | .ok txs =>
        .ok { s with
          batchData := txs.foldl (loadOne layer keccak256 oracle s.batchInboxAddress batcher) s.batchData
          opened := true }

def next (layer : DaLayer) (keccak256 : Bytes → Bytes32) (oracle : PreimageOracle)
    (answer : Except ε (List TxEnvelope)) (batcher : Address) (s : State) : Except (PipelineError ε) Bytes × State :=
  match loadBatchData layer keccak256 oracle answer batcher s with
  | .error reason => (.error (.provider reason), s)
  | .ok loaded =>
      match loaded.batchData with
      | [] => (.error .eof, loaded)
      | batch :: rest => (.ok batch, { loaded with batchData := rest })

def clear (s : State) : State := { s with batchData := [], opened := false }

end DataSource

namespace CelestiaDataSource

variable {ε : Type}

def loadBatchData (keccak256 : Bytes → Bytes32) (oracle : PreimageOracle) (answer : Except ε (List TxEnvelope))
    (batcher : Address) (s : DataSource.State) : Except ε DataSource.State :=
  DataSource.loadBatchData .celestia keccak256 oracle answer batcher s

def next (keccak256 : Bytes → Bytes32) (oracle : PreimageOracle) (answer : Except ε (List TxEnvelope))
    (batcher : Address) (s : DataSource.State) : Except (PipelineError ε) Bytes × DataSource.State :=
  DataSource.next .celestia keccak256 oracle answer batcher s

end CelestiaDataSource

namespace EigenDADataSource

variable {ε : Type}

def loadBatchData (keccak256 : Bytes → Bytes32) (oracle : PreimageOracle) (answer : Except ε (List TxEnvelope))
    (batcher : Address) (s : DataSource.State) : Except ε DataSource.State :=
  DataSource.loadBatchData .eigenDa keccak256 oracle answer batcher s

def next (keccak256 : Bytes → Bytes32) (oracle : PreimageOracle) (answer : Except ε (List TxEnvelope))
    (batcher : Address) (s : DataSource.State) : Except (PipelineError ε) Bytes × DataSource.State :=
  DataSource.next .eigenDa keccak256 oracle answer batcher s

end EigenDADataSource

namespace DataSource

variable {ε : Type}

def deliver (layer : DaLayer) (keccak256 : Bytes → Bytes32) (oracle : PreimageOracle) (inbox batcher : Address)
    (tx : TxEnvelope) : Option Bytes :=
  match posting layer inbox batcher tx with
  | .ignored => none
  | .commitment bytes => resolveCommitment keccak256 oracle bytes
  | .calldata bytes => some bytes

def delivered (layer : DaLayer) (keccak256 : Bytes → Bytes32) (oracle : PreimageOracle) (inbox batcher : Address)
    (txs : List TxEnvelope) : List Bytes :=
  txs.filterMap (deliver layer keccak256 oracle inbox batcher)

theorem load_one_delivers (layer : DaLayer) (keccak256 : Bytes → Bytes32) (oracle : PreimageOracle) (inbox batcher : Address)
    (batchData : List Bytes) (tx : TxEnvelope) :
    loadOne layer keccak256 oracle inbox batcher batchData tx =
      batchData ++ (deliver layer keccak256 oracle inbox batcher tx).toList := by
  cases posted : posting layer inbox batcher tx with
  | ignored => simp [loadOne, deliver, posted]
  | calldata bytes => simp [loadOne, deliver, posted]
  | commitment bytes =>
      simp only [loadOne, deliver, posted]
      cases resolveCommitment keccak256 oracle bytes with
      | none => simp
      | some resolved => simp

theorem load_fold_delivers (layer : DaLayer) (keccak256 : Bytes → Bytes32) (oracle : PreimageOracle) (inbox batcher : Address)
    (txs : List TxEnvelope) (batchData : List Bytes) :
    txs.foldl (loadOne layer keccak256 oracle inbox batcher) batchData =
      batchData ++ delivered layer keccak256 oracle inbox batcher txs := by
  induction txs generalizing batchData with
  | nil => simp [delivered]
  | cons tx rest ih =>
      rw [List.foldl_cons, ih, load_one_delivers, delivered, delivered, List.filterMap_cons, List.append_assoc]
      cases deliver layer keccak256 oracle inbox batcher tx <;> rfl

theorem next_opened (layer : DaLayer) (keccak256 : Bytes → Bytes32) (oracle : PreimageOracle)
    (answer : Except ε (List TxEnvelope)) (batcher inbox : Address) (batchData : List Bytes) :
    next layer keccak256 oracle answer batcher ⟨inbox, batchData, true⟩ =
      match batchData with
      | [] => (.error .eof, ⟨inbox, [], true⟩)
      | batch :: rest => (.ok batch, ⟨inbox, rest, true⟩) := by
  cases batchData <;> rfl

theorem next_new_ok (layer : DaLayer) (keccak256 : Bytes → Bytes32) (oracle : PreimageOracle) (txs : List TxEnvelope)
    (batcher inbox : Address) :
    next layer keccak256 oracle (.ok txs : Except ε (List TxEnvelope)) batcher (new inbox) =
      next layer keccak256 oracle (.ok txs : Except ε (List TxEnvelope)) batcher
        ⟨inbox, delivered layer keccak256 oracle inbox batcher txs, true⟩ := by
  have loaded := load_fold_delivers layer keccak256 oracle inbox batcher txs []
  rw [List.nil_append] at loaded
  rw [next, next, ← loaded]
  rfl

theorem next_new_error (layer : DaLayer) (keccak256 : Bytes → Bytes32) (oracle : PreimageOracle) (reason : ε)
    (batcher inbox : Address) :
    next layer keccak256 oracle (.error reason) batcher (new inbox) = (.error (.provider reason), new inbox) := rfl

theorem clear_new (s : State) : clear s = new s.batchInboxAddress := rfl

end DataSource

end OpenZk
