import OpenZk.DataWithholding

set_option autoImplicit false

namespace OpenZk.DataSource

open Words

/-- Purpose of a source, in its own terms: the batches that a block holds for an inbox and a batcher. -/
def Carries (inbox batcher : Address) (tx : TxEnvelope) : Prop :=
  (tx.txType = .legacy ∨ tx.txType = .eip2930 ∨ tx.txType = .eip1559) ∧ tx.recipient = some inbox ∧
    tx.signer = some batcher ∧ tx.input ≠ []

instance (inbox batcher : Address) (tx : TxEnvelope) : Decidable (Carries inbox batcher tx) :=
  inferInstanceAs (Decidable (_ ∧ _))

def payload (layer : DaLayer) (keccak256 : Bytes → Bytes32) (oracle : PreimageOracle) (input : Bytes) : Option Bytes :=
  match input with
  | [] => none
  | first :: rest =>
      if first = layer.commitmentPrefix ∨ first = genericCommitmentPrefix then
        (oracle (PreimageKey.new (keccak256 rest) .keccak256)).toOption
      else some input

def payloads (layer : DaLayer) (keccak256 : Bytes → Bytes32) (oracle : PreimageOracle) (inbox batcher : Address)
    (block : List TxEnvelope) : List Bytes :=
  (block.filter fun tx => Carries inbox batcher tx).filterMap fun tx => payload layer keccak256 oracle tx.input

theorem deliver_carried (layer : DaLayer) (keccak256 : Bytes → Bytes32) (oracle : PreimageOracle) (inbox batcher : Address)
    (tx : TxEnvelope) (carries : Carries inbox batcher tx) :
    deliver layer keccak256 oracle inbox batcher tx = payload layer keccak256 oracle tx.input := by
  obtain ⟨readable, recipient, signer, _⟩ := carries
  have reads := (reads_type_iff tx.txType).mpr readable
  cases input : tx.input with
  | nil => simp [deliver, posting, reads, recipient, signer, input, payload]
  | cons first rest =>
      by_cases marked : first = layer.commitmentPrefix ∨ first = genericCommitmentPrefix
      · simp [deliver, posting, reads, recipient, signer, input, payload, marked, resolveCommitment]
      · simp [deliver, posting, reads, recipient, signer, input, payload, marked]

theorem deliver_skipped (layer : DaLayer) (keccak256 : Bytes → Bytes32) (oracle : PreimageOracle) (inbox batcher : Address)
    (tx : TxEnvelope) (skipped : ¬ Carries inbox batcher tx) :
    deliver layer keccak256 oracle inbox batcher tx = none := by
  by_cases readable : readsType tx.txType = true
  · by_cases recipient : tx.recipient = some inbox
    · by_cases signer : tx.signer = some batcher
      · have empty : tx.input = [] := by
          by_contra input
          exact skipped ⟨(reads_type_iff tx.txType).mp readable, recipient, signer, input⟩
        simp [deliver, posting, empty]
      · simp [deliver, posting, signer]
    · simp [deliver, posting, recipient]
  · simp [deliver, posting, readable]

theorem delivered_payloads (layer : DaLayer) (keccak256 : Bytes → Bytes32) (oracle : PreimageOracle)
    (inbox batcher : Address) (block : List TxEnvelope) :
    delivered layer keccak256 oracle inbox batcher block = payloads layer keccak256 oracle inbox batcher block := by
  rw [delivered, payloads, List.filterMap_filter]
  apply List.filterMap_congr
  intro tx _
  by_cases carries : Carries inbox batcher tx
  · simp [deliver_carried, carries]
  · simp [deliver_skipped, carries]

variable {ε : Type}

def calls (source : Source ε) :
    List (Except ε (List TxEnvelope)) → State → List (Except (PipelineError ε) Bytes) × State
  | [], s => ([], s)
  | answer :: later, s =>
      let (returned, after) := source answer s
      let (rest, last) := calls source later after
      (returned :: rest, last)

theorem calls_append (source : Source ε) (front back : List (Except ε (List TxEnvelope))) (s : State) :
    calls source (front ++ back) s =
      ((calls source front s).1 ++ (calls source back (calls source front s).2).1,
        (calls source back (calls source front s).2).2) := by
  induction front generalizing s with
  | nil => rfl
  | cons answer later ih => simp only [List.cons_append, calls, ih]

theorem failed_calls (layer : DaLayer) (keccak256 : Bytes → Bytes32) (oracle : PreimageOracle) (batcher inbox : Address)
    (failures : List ε) :
    calls (layer.source keccak256 oracle batcher) (failures.map .error) (new inbox) =
      (failures.map fun reason => .error (.provider reason), new inbox) := by
  induction failures with
  | nil => rfl
  | cons reason later ih =>
      rw [List.map_cons, calls, source_next, next_new_error]
      simp only [ih, List.map_cons]

def reply (batches : List Bytes) (index : Nat) : Except (PipelineError ε) Bytes :=
  match batches[index]? with
  | some batch => .ok batch
  | none => .error .eof

theorem opened_calls (layer : DaLayer) (keccak256 : Bytes → Bytes32) (oracle : PreimageOracle) (batcher inbox : Address)
    (answers : List (Except ε (List TxEnvelope))) (batchData : List Bytes) :
    (calls (layer.source keccak256 oracle batcher) answers ⟨inbox, batchData, true⟩).1 =
      (List.range answers.length).map (reply batchData) := by
  induction answers generalizing batchData with
  | nil => rfl
  | cons answer later ih =>
      rw [calls, source_next, next_opened, List.length_cons, List.range_succ_eq_map, List.map_cons, List.map_map]
      cases batchData with
      | nil =>
          dsimp only
          rw [ih]
          rfl
      | cons batch rest =>
          dsimp only
          rw [ih]
          rfl

theorem fresh_calls (layer : DaLayer) (keccak256 : Bytes → Bytes32) (oracle : PreimageOracle) (batcher inbox : Address)
    (block : List TxEnvelope) (later : List (Except ε (List TxEnvelope))) :
    (calls (layer.source keccak256 oracle batcher) (.ok block :: later) (new inbox)).1 =
      (List.range (later.length + 1)).map (reply (payloads layer keccak256 oracle inbox batcher block)) := by
  have opened := opened_calls layer keccak256 oracle batcher inbox (.ok block :: later)
    (delivered layer keccak256 oracle inbox batcher block)
  rw [← delivered_payloads, ← List.length_cons (a := Except.ok block), ← opened, calls, calls, source_next, source_next,
    next_new_ok]

structure DeliversOnce (source : Source ε) (inbox : Address) (block : List TxEnvelope) (batches : List Bytes) (start : State) :
    Prop where
  failing : ∀ failures : List ε, calls source (failures.map .error) start =
    (failures.map fun reason => .error (.provider reason), ⟨inbox, [], false⟩)
  delivering : ∀ (failures : List ε) later, (calls source (failures.map .error ++ .ok block :: later) start).1 =
    (failures.map fun reason => .error (.provider reason)) ++ (List.range (later.length + 1)).map (reply batches)

theorem new_delivers_once (layer : DaLayer) (keccak256 : Bytes → Bytes32) (oracle : PreimageOracle) (batcher inbox : Address)
    (block : List TxEnvelope) :
    DeliversOnce (layer.source keccak256 oracle batcher : Source ε) inbox block
      (payloads layer keccak256 oracle inbox batcher block) (new inbox) := by
  refine ⟨failed_calls layer keccak256 oracle batcher inbox, ?_⟩
  intro failures later
  rw [calls_append, failed_calls, fresh_calls]

/-- A new source, and a cleared one whatever the old block had left in it. -/
theorem delivers_exactly_once (ε : Type) (layer : DaLayer) (keccak256 : Bytes → Bytes32) (oracle : PreimageOracle)
    (batcher inbox : Address) (block : List TxEnvelope) (oldBatches : List Bytes) (oldOpened : Bool) :
    DeliversOnce (layer.source keccak256 oracle batcher : Source ε) inbox block
        (payloads layer keccak256 oracle inbox batcher block) (new inbox) ∧
      DeliversOnce (layer.source keccak256 oracle batcher : Source ε) inbox block
        (payloads layer keccak256 oracle inbox batcher block) (clear ⟨inbox, oldBatches, oldOpened⟩) := by
  have fresh := new_delivers_once (ε := ε) layer keccak256 oracle batcher inbox block
  refine ⟨fresh, ?_⟩
  rw [clear_new]
  exact fresh

end OpenZk.DataSource
