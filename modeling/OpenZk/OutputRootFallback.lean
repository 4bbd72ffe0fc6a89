import OpenZk.Composition

set_option autoImplicit false

namespace OpenZk.WitnessProvider

open Words

def outputPreimage (stateRoot withdrawalStorageRoot blockHash : Bytes32) : Bytes :=
  zeroWord.data ++ (stateRoot.data ++ (withdrawalStorageRoot.data ++ blockHash.data))

def outputRoot (keccak256 : Bytes → Bytes32) (block : L2Block) (storageRoot : Bytes32) : Bytes32 :=
  keccak256 (outputPreimage block.stateRoot storageRoot block.hash)

structure Truthful (env : Env) (number : UInt64) (block : L2Block) (storageRoot : Bytes32) : Prop where
  outputs : ∀ url root, env.outputAtBlock url number = some root → root = outputRoot env.keccak256 block storageRoot
  headers : ∀ url found, env.blockByNumber url number = .ok (some found) → found = block

structure FallsBack (env : Env) (provider : RpcWitnessProvider) (number : UInt64) : Prop where
  opNode : ∀ url, provider.opNodeUrl = some url → env.parseUrl url = .ok () ∧ env.outputAtBlock url number = none
  l2Node : env.outputAtBlock provider.l2RpcUrl number = none
  header : ∃ block, env.blockByNumber provider.l2RpcUrl number = .ok (some block)

theorem payload_preimage (block : L2Block) :
    outputPayload block = outputPreimage block.stateRoot (block.withdrawalsRoot.getD zeroWord) block.hash := rfl

theorem output_preimage_inj (stateRoot a b blockHash : Bytes32)
    (same : outputPreimage stateRoot a blockHash = outputPreimage stateRoot b blockHash) : a = b := by
  have tails := List.append_cancel_left (List.append_cancel_left same)
  exact word_ext a b (List.append_cancel_right tails)

theorem l2_node_answers (env : Env) (provider : RpcWitnessProvider) (number : UInt64) (block : L2Block)
    (storageRoot root : Bytes32) (truthful : Truthful env number block storageRoot)
    (fetched : fetchFromL2Node env provider number = .ok root) :
    root = outputRoot env.keccak256 block storageRoot ∨
      (env.outputAtBlock provider.l2RpcUrl number = none ∧
        env.blockByNumber provider.l2RpcUrl number = .ok (some block) ∧ root = env.keccak256 (outputPayload block)) := by
  rw [fetchFromL2Node] at fetched
  split at fetched
  · rename_i answer answered
    rw [← Except.ok.inj fetched]
    exact .inl (truthful.outputs _ answer answered)
  · rename_i unanswered
    cases header : fetchBlock env provider.l2RpcUrl s!"L2 block {number}" number with
    | error reason =>
        rw [header] at fetched
        cases fetched
    | ok found =>
        rw [header] at fetched
        have answered := fetch_block_ok env _ _ number found header
        have same := truthful.headers _ found answered
        subst same
        exact .inr ⟨unanswered, answered, (Except.ok.inj fetched).symm⟩

theorem fetch_output_root_cases (env : Env) (provider : RpcWitnessProvider) (number : UInt64) (block : L2Block)
    (storageRoot root : Bytes32) (truthful : Truthful env number block storageRoot)
    (fetched : fetchOutputRoot env provider number = .ok root) :
    root = outputRoot env.keccak256 block storageRoot ∨
      (FallsBack env provider number ∧ root = env.keccak256 (outputPayload block)) := by
  rw [fetchOutputRoot] at fetched
  split at fetched
  -- Without an OP node the L2 node is asked at once.
  · rename_i absent
    rcases l2_node_answers env provider number block storageRoot root truthful fetched with true_root | derived
    · exact .inl true_root
    · obtain ⟨unanswered, header, derived⟩ := derived
      refine .inr ⟨⟨?_, unanswered, _, header⟩, derived⟩
      intro url present
      rw [absent] at present
      cases present
  · rename_i url present
    split at fetched
    · cases fetched
    · rename_i parsed
      split at fetched
      · rename_i answer answered
        rw [← Except.ok.inj fetched]
        exact .inl (truthful.outputs _ answer answered)
      · rename_i opUnanswered
        rcases l2_node_answers env provider number block storageRoot root truthful fetched with true_root | derived
        · exact .inl true_root
        · obtain ⟨unanswered, header, derived⟩ := derived
          refine .inr ⟨⟨?_, unanswered, _, header⟩, derived⟩
          intro other otherPresent
          rw [present] at otherPresent
          cases otherPresent
          exact ⟨parsed, opUnanswered⟩

theorem falls_back_derives (env : Env) (provider : RpcWitnessProvider) (number : UInt64) (block : L2Block)
    (storageRoot : Bytes32) (truthful : Truthful env number block storageRoot) (falls : FallsBack env provider number) :
    fetchOutputRoot env provider number = .ok (env.keccak256 (outputPayload block)) := by
  obtain ⟨found, header⟩ := falls.header
  have same := truthful.headers _ found header
  subst same
  have fromL2 : fetchFromL2Node env provider number = .ok (env.keccak256 (outputPayload found)) := by
    simp only [fetchFromL2Node, falls.l2Node, fetchBlock, header, Except.map]
  rw [fetchOutputRoot]
  split
  · exact fromL2
  · rename_i url present
    obtain ⟨parsed, unanswered⟩ := falls.opNode url present
    simp only [parsed, unanswered, fromL2]

/-- The fallback takes the header's withdrawals root, or the zero word where there is none, for the
storage root, and reports no error where it is another. -/
theorem fallback_agrees_iff (env : Env) (provider : RpcWitnessProvider) (number : UInt64) (block : L2Block)
    (storageRoot : Bytes32) (truthful : Truthful env number block storageRoot)
    (collisionFree : env.keccak256 (outputPayload block) = outputRoot env.keccak256 block storageRoot →
      outputPayload block = outputPreimage block.stateRoot storageRoot block.hash) :
    (∀ root, fetchOutputRoot env provider number = .ok root → root = outputRoot env.keccak256 block storageRoot) ↔
      (FallsBack env provider number → block.withdrawalsRoot.getD zeroWord = storageRoot) := by
  refine ⟨?_, ?_⟩
  · intro agrees falls
    have derived := agrees _ (falls_back_derives env provider number block storageRoot truthful falls)
    exact output_preimage_inj _ _ _ _ (collisionFree derived)
  · intro recorded root fetched
    rcases fetch_output_root_cases env provider number block storageRoot root truthful fetched with true_root | derived
    · exact true_root
    · obtain ⟨falls, rfl⟩ := derived
      rw [payload_preimage, recorded falls, outputRoot]

def sampleBlock : L2Block := ⟨wordOfNat 0xb7, wordOfNat 0x51, none⟩

def sampleStorageRoot : Bytes32 := wordOfNat 0x52

def knownKeccak256 (bytes : Bytes) : Bytes32 :=
  if bytes = outputPayload sampleBlock then
    wordOfNat 0xc90ba7c201f81fcd156342f5bd28fcf695c3559b3293265c086d58ba6a7b8663
  else if bytes = outputPreimage sampleBlock.stateRoot sampleStorageRoot sampleBlock.hash then
    wordOfNat 0x14e996d5cbfdf138172da469ac2a740cea85162a9d36d5049c4ffc7c413ca1f5
  else zeroWord

def headerOnlyEnv : Env :=
  { Composition.sampleEnv with
    blockByNumber := fun _ _ => .ok (some sampleBlock)
    outputAtBlock := fun _ _ => none
    keccak256 := knownKeccak256 }

def headerOnlyProvider : RpcWitnessProvider := ⟨"l1", "l2", "beacon", some "op-node", none, none⟩

theorem header_only_truthful (number : UInt64) : Truthful headerOnlyEnv number sampleBlock sampleStorageRoot := by
  refine ⟨?_, ?_⟩
  · intro url root answered
    cases answered
  · intro url found answered
    exact (Option.some.inj (Except.ok.inj answered)).symm

theorem header_only_falls_back (number : UInt64) : FallsBack headerOnlyEnv headerOnlyProvider number :=
  ⟨fun _ _ => ⟨rfl, rfl⟩, rfl, sampleBlock, rfl⟩

theorem known_digests_differ :
    knownKeccak256 (outputPayload sampleBlock) ≠ outputRoot knownKeccak256 sampleBlock sampleStorageRoot := by
  have different : outputPreimage sampleBlock.stateRoot sampleStorageRoot sampleBlock.hash ≠ outputPayload sampleBlock := by
    decide
  rw [outputRoot, knownKeccak256, knownKeccak256, if_pos rfl, if_neg different, if_pos rfl]
  decide

theorem fallback_agrees_sample :
    (∀ root, fetchOutputRoot headerOnlyEnv headerOnlyProvider 7 = .ok root →
        root = outputRoot knownKeccak256 sampleBlock sampleStorageRoot) ↔
      (FallsBack headerOnlyEnv headerOnlyProvider 7 → sampleBlock.withdrawalsRoot.getD zeroWord = sampleStorageRoot) :=
  fallback_agrees_iff headerOnlyEnv headerOnlyProvider 7 sampleBlock sampleStorageRoot (header_only_truthful 7)
    fun same => absurd same known_digests_differ

theorem missing_withdrawals_root_zeroed :
    fetchOutputRoot headerOnlyEnv headerOnlyProvider 7 = .ok (knownKeccak256 (outputPayload sampleBlock)) ∧
      knownKeccak256 (outputPayload sampleBlock) ≠ outputRoot knownKeccak256 sampleBlock sampleStorageRoot :=
  ⟨falls_back_derives headerOnlyEnv headerOnlyProvider 7 sampleBlock sampleStorageRoot (header_only_truthful 7)
    (header_only_falls_back 7), known_digests_differ⟩

end OpenZk.WitnessProvider
