import OpenZk.AggregationTelescope
import OpenZk.OracleRuns
import OpenZk.RangeBinding

set_option autoImplicit false

namespace OpenZk.Oracle

open Words Aggregation

variable {Vkey : Type}

def CommittedByGuest (verifyInnerProof : Vkey → Bytes → Bool) (values : Bytes) : Prop :=
  ∃ numProofs vkey input, Aggregation.main verifyInnerProof numProofs vkey input = some values

def TrustsGuest (v : Verifiers) (verifyInnerProof : Vkey → Bytes → Bool) (s : State) : Prop :=
  ∀ sub, accepts v s sub = true → CommittedByGuest verifyInnerProof sub.journal

structure SameTrust (a b : State) : Prop where
  sp1Verifier : b.sp1Verifier = a.sp1Verifier
  risc0Verifier : b.risc0Verifier = a.risc0Verifier
  sp1ProgramVKey : b.sp1ProgramVKey = a.sp1ProgramVKey
  risc0ImageId : b.risc0ImageId = a.risc0ImageId
  owner : b.owner = a.owner

/-- The inner journals behind a proposal. The first gives the anchor and the last the output; all
were verified under one key. -/
structure Lineage (verifyInnerProof : Vkey → Bytes → Bool) (proposal : OutputProposal) (vkey : Vkey)
    (first : StateTransitionJournal) (rest : List StateTransitionJournal) : Prop where
  verified : ∀ journal ∈ first :: rest, ∃ bytes, verifyInnerProof vkey bytes = true ∧ fromAbiBytes bytes = some journal
  chained : (first :: rest).IsChain Continues
  l1Head : proposal.l1Head = first.l1Head
  outputRoot : proposal.outputRoot = (rest.getLastD first).l2PostRoot
  l2BlockNumber : proposal.l2BlockNumber = (rest.getLastD first).l2BlockNumber

def GuestKey (k : Kona) (factory : k.DaSourceFactory) (verifyInnerProof : Vkey → Bytes → Bool) (vkey : Vkey) : Prop :=
  ∀ bytes, verifyInnerProof vkey bytes = true → ∃ store, RangeGuest.run k factory store = some bytes

theorem same_trust_accepts (v : Verifiers) (a b : State) (same : SameTrust a b) (sub : Submission) :
    accepts v b sub = accepts v a sub := by
  obtain ⟨backend, journal, proof⟩ := sub
  cases backend with
  | sp1 => simp only [accepts, same.sp1Verifier, same.sp1ProgramVKey]
  | riscZero => simp only [accepts, same.risc0Verifier, same.risc0ImageId]

theorem same_trust_refl (s : State) : SameTrust s s := ⟨rfl, rfl, rfl, rfl, rfl⟩

theorem execute_same_trust (v : Verifiers) (origin before after : State) (tx : Tx) (event : Event)
    (stranger : tx.msg.sender ≠ origin.owner) (same : SameTrust origin before)
    (committed : execute v before tx = .ok (after, event)) : SameTrust origin after := by
  cases execute_cases v before after tx event committed with
  | submitted sub call length accepted free stored emitted =>
      subst stored
      refine ⟨?_, ?_, ?_, ?_, ?_⟩
      · rw [record_sp1_verifier, same.sp1Verifier]
      · rw [record_risc0_verifier, same.risc0Verifier]
      · rw [record_sp1_key, same.sp1ProgramVKey]
      · rw [record_risc0_key, same.risc0ImageId]
      · rw [record_owner, same.owner]
  | sp1Key vkey call owner stored emitted => exact absurd (owner.trans same.owner) stranger
  | risc0Key imageId call owner stored emitted => exact absurd (owner.trans same.owner) stranger

theorem decoded_part (verifyInnerProof : Vkey → Bytes → Bool) (vkey : Vkey) (parts : List Bytes)
    (journals : List StateTransitionJournal) (verified : ∀ bytes ∈ parts, verifyInnerProof vkey bytes = true)
    (decoded : parts.map fromAbiBytes = journals.map some) (journal : StateTransitionJournal) (member : journal ∈ journals) :
    ∃ bytes, verifyInnerProof vkey bytes = true ∧ fromAbiBytes bytes = some journal := by
  have mapped := List.mem_map_of_mem (f := some) member
  rw [← decoded] at mapped
  obtain ⟨bytes, inside, decodes⟩ := List.mem_map.mp mapped
  exact ⟨bytes, verified bytes inside, decodes⟩

theorem committed_lineage (verifyInnerProof : Vkey → Bytes → Bool) (msg : Msg) (values : Bytes)
    (committed : CommittedByGuest verifyInnerProof values) :
    ∃ vkey first rest, Lineage verifyInnerProof (outputProposal msg values) vkey first rest := by
  obtain ⟨numProofs, vkey, input, committed⟩ := committed
  obtain ⟨journals, aggregated, collected, accepted, rfl⟩ := (main_some_iff _ _ _ _ _).mp committed
  obtain ⟨_, verified, decoded⟩ := (collect_journals_iff _ _ _ _ _).mp collected
  cases journals with
  | nil => cases accepted
  | cons first rest =>
      obtain ⟨chained, rfl⟩ := (aggregate_some_iff first rest aggregated).mp accepted
      refine ⟨vkey, first, rest, decoded_part verifyInnerProof vkey _ _ verified decoded, chained, ?_, ?_, ?_⟩
      · exact l1_head_of_abi_bytes _
      · exact l2_post_root_of_abi_bytes _
      · exact l2_block_number_of_abi_bytes _

theorem run_lineage (v : Verifiers) (verifyInnerProof : Vkey → Bytes → Bool) (deployer : Msg) (sp1 risc0 : Address)
    (vkey imageId : Bytes32) (txs : List Tx)
    (trusts : TrustsGuest v verifyInnerProof (deploy deployer sp1 risc0 vkey imageId))
    (quiet : ∀ tx ∈ txs, tx.msg.sender ≠ deployer.sender) (number : UInt64)
    (proven : isBlockProven (run v (deploy deployer sp1 risc0 vkey imageId) txs) number = true) :
    ∃ inner first rest,
      Lineage verifyInnerProof ((run v (deploy deployer sp1 risc0 vkey imageId) txs).proposals number) inner first rest := by
  -- Without the owner the keys stay, so what the verifiers accept does not change on the way.
  have general := (machine v).run_invariant
    (fun s => SameTrust (deploy deployer sp1 risc0 vkey imageId) s ∧ ∀ number, isBlockProven s number = true →
      ∃ inner first rest, Lineage verifyInnerProof (s.proposals number) inner first rest)
    (fun tx => tx.msg.sender ≠ deployer.sender) (deploy deployer sp1 risc0 vkey imageId) txs ?_ quiet ?_
  · exact general.2 number proven
  · refine ⟨same_trust_refl _, fun number proven => ?_⟩
    rw [proven_iff] at proven
    exact absurd rfl proven
  · intro before tx after event stranger held committed
    refine ⟨execute_same_trust v _ before after tx event stranger held.1 committed, fun number proven => ?_⟩
    cases execute_records v before after tx event committed with
    | submitted sub call length accepted free stored =>
        subst stored
        by_cases here : number = l2BlockNumberOf sub.journal
        · subst here
          rw [record_here]
          rw [same_trust_accepts v _ before held.1] at accepted
          exact committed_lineage verifyInnerProof tx.msg sub.journal (trusts sub accepted)
        · rw [proven_iff, record_elsewhere _ _ _ _ here, ← proven_iff] at proven
          rw [record_elsewhere _ _ _ _ here]
          exact held.2 number proven
    | kept call proposals latest latestRoot =>
        rw [proven_iff, proposals, ← proven_iff] at proven
        rw [proposals]
        exact held.2 number proven

theorem guest_runs (k : Kona) (factory : k.DaSourceFactory) (verifyInnerProof : Vkey → Bytes → Bool) (vkey : Vkey)
    (guest : GuestKey k factory verifyInnerProof vkey) (journals : List StateTransitionJournal)
    (verified : ∀ journal ∈ journals, ∃ bytes, verifyInnerProof vkey bytes = true ∧ fromAbiBytes bytes = some journal) :
    ∃ runs : List PipelineRun, runs.map (fun finished => RangeGuest.journal finished.output) = journals ∧
      ∀ finished ∈ runs, ∃ store, RangeGuest.runPipeline k factory store = some finished := by
  induction journals with
  | nil => exact ⟨[], rfl, by simp⟩
  | cons journal rest ih =>
      obtain ⟨runs, mapped, completed⟩ := ih fun other member => verified other (List.mem_cons_of_mem journal member)
      obtain ⟨bytes, accepted, decoded⟩ := verified journal List.mem_cons_self
      obtain ⟨store, ran⟩ := guest bytes accepted
      obtain ⟨finished, pipeline, rfl⟩ := RangeGuest.run_cases k factory store bytes ran
      rw [abi_round_trip] at decoded
      refine ⟨finished :: runs, by rw [List.map_cons, mapped, Option.some.inj decoded], ?_⟩
      intro other member
      rcases List.mem_cons.mp member with rfl | member
      · exact ⟨store, pipeline⟩
      · exact completed other member

/-- While the owner keeps still, every proven output ends a chain of inner journals verified under
one key; where that key is the range guest's, it ends a chain of derivations. -/
theorem proven_output_lineage (v : Verifiers) (verifyInnerProof : Vkey → Bytes → Bool) (deployer : Msg) (sp1 risc0 : Address)
    (vkey imageId : Bytes32) (txs : List Tx)
    (trusts : TrustsGuest v verifyInnerProof (deploy deployer sp1 risc0 vkey imageId))
    (quiet : ∀ tx ∈ txs, tx.msg.sender ≠ deployer.sender) (number : UInt64)
    (proven : isBlockProven (run v (deploy deployer sp1 risc0 vkey imageId) txs) number = true) :
    ∃ inner first rest,
      Lineage verifyInnerProof ((run v (deploy deployer sp1 risc0 vkey imageId) txs).proposals number) inner first rest ∧
        ∀ (k : Kona) (factory : k.DaSourceFactory), GuestKey k factory verifyInnerProof inner →
          ∃ runs : List PipelineRun, runs.map (fun finished => RangeGuest.journal finished.output) = first :: rest ∧
            ∀ finished ∈ runs, ∃ store, RangeGuest.runPipeline k factory store = some finished := by
  obtain ⟨inner, first, rest, lineage⟩ :=
    run_lineage v verifyInnerProof deployer sp1 risc0 vkey imageId txs trusts quiet number proven
  exact ⟨inner, first, rest, lineage,
    fun k factory guest => guest_runs k factory verifyInnerProof inner guest (first :: rest) lineage.verified⟩

def firstPart : StateTransitionJournal := RangeGuest.derivationJournal 0xaa 100 103

def secondPart : StateTransitionJournal := RangeGuest.derivationJournal 0xab 103 105

def joinedParts : Bytes := toAbiBytes (combine firstPart secondPart)

def holdsParts (_vkey : Vector UInt32 8) (bytes : Bytes) : Bool :=
  bytes = toAbiBytes firstPart || bytes = toAbiBytes secondPart

def joinedVerifiers : Verifiers where
  verifyProof := fun _ _ values _ => values = joinedParts
  verify := fun _ _ _ _ => false
  sha256 := fun _ => zeroWord

def joinedTx : Tx := ⟨⟨0x9, 100⟩, submit ⟨.sp1, joinedParts, [0xde, 0xad]⟩⟩

theorem joined_commits (vkey : Vector UInt32 8) :
    Aggregation.main holdsParts 2 vkey ([firstPart, secondPart].map toAbiBytes) = some joinedParts := by
  apply pair_commits holdsParts vkey firstPart secondPart
  · intro journal member
    rcases List.mem_pair.mp member with rfl | rfl
    · simp [holdsParts]
    · simp [holdsParts]
  · exact ⟨rfl, rfl⟩

theorem joined_trusts (s : State) : TrustsGuest joinedVerifiers holdsParts s := by
  intro sub accepted
  obtain ⟨backend, values, proof⟩ := sub
  cases backend with
  | sp1 =>
      obtain rfl : values = joinedParts := by simpa [accepts, joinedVerifiers] using accepted
      exact ⟨2, Vector.replicate 8 0, _, joined_commits _⟩
  | riscZero => simp [accepts, joinedVerifiers] at accepted

theorem parts_guest_key (vkey : Vector UInt32 8) :
    GuestKey RangeGuest.derivingKona RangeGuest.derivingFactory holdsParts vkey := by
  intro bytes accepted
  have known : bytes = toAbiBytes firstPart ∨ bytes = toAbiBytes secondPart := by simpa [holdsParts] using accepted
  rcases known with rfl | rfl
  · exact ⟨_, RangeGuest.derivation_commits 0xaa 100 103 (by decide)⟩
  · exact ⟨_, RangeGuest.derivation_commits 0xab 103 105 (by decide)⟩

theorem joined_proposal :
    (run joinedVerifiers mockDeployed [joinedTx]).proposals 105 =
      ⟨RangeGuest.chainRoot 105, 105, wordOfNat 0xaa, (100 : BitVec 256).setWidth 128⟩ := by
  have number : l2BlockNumberOf joinedParts = 105 := l2_block_number_of_abi_bytes _
  have committed := submit_commits joinedVerifiers mockDeployed ⟨0x9, 100⟩ ⟨.sp1, joinedParts, [0xde, 0xad]⟩
    (abi_bytes_length _) (by simp [accepts, joinedVerifiers]) (by rw [number]; exact mock_deployed_unproven 105)
  have here := record_here ⟨0x9, 100⟩ joinedParts mockDeployed
  rw [number, outputProposal, number, joinedParts, l2_post_root_of_abi_bytes, l1_head_of_abi_bytes] at here
  rw [joinedTx, run_execute _ _ _ _ _ _ committed, run_empty]
  exact here

theorem part_of_verified (vkey : Vector UInt32 8) (journal : StateTransitionJournal)
    (verified : ∃ bytes, holdsParts vkey bytes = true ∧ fromAbiBytes bytes = some journal) :
    journal = firstPart ∨ journal = secondPart := by
  obtain ⟨bytes, accepted, decoded⟩ := verified
  have known : bytes = toAbiBytes firstPart ∨ bytes = toAbiBytes secondPart := by simpa [holdsParts] using accepted
  rcases known with rfl | rfl
  · rw [abi_round_trip] at decoded
    exact .inl (Option.some.inj decoded).symm
  · rw [abi_round_trip] at decoded
    exact .inr (Option.some.inj decoded).symm

theorem proven_output_lineage_sample :
    ∃ inner first rest,
      Lineage holdsParts ((run joinedVerifiers mockDeployed [joinedTx]).proposals 105) inner first rest ∧ rest ≠ [] ∧
        ∃ runs : List PipelineRun, runs.map (fun finished => RangeGuest.journal finished.output) = first :: rest ∧
          ∀ finished ∈ runs, ∃ store,
            RangeGuest.runPipeline RangeGuest.derivingKona RangeGuest.derivingFactory store = some finished := by
  have proven : isBlockProven (run joinedVerifiers mockDeployed [joinedTx]) 105 = true := by
    rw [proven_iff, joined_proposal]
    exact word_of_nat_ne_zero 106 (by decide) (by decide)
  obtain ⟨inner, first, rest, lineage, derived⟩ := proven_output_lineage joinedVerifiers holdsParts ⟨0x7, 1⟩ 0x51 0x52
    (wordOfNat 0x1234) (wordOfNat 0x5678) [joinedTx] (joined_trusts _) (by simp [joinedTx]) 105 proven
  rw [← mockDeployed, joined_proposal] at lineage
  rw [joined_proposal]
  refine ⟨inner, first, rest, lineage, ?_, derived _ _ (parts_guest_key inner)⟩
  rintro rfl
  -- Neither part alone has the first's anchor and the second's number.
  rcases part_of_verified inner first (lineage.verified first List.mem_cons_self) with rfl | rfl
  · exact absurd lineage.l2BlockNumber (by decide)
  · exact absurd (word_of_nat_inj _ _ (by decide) (by decide) lineage.l1Head) (by decide)

theorem main_key_free (verifyInnerProof : Vkey → Bytes → Bool) (numProofs : UInt32) (vkey other : Vkey) (input : List Bytes)
    (same : ∀ bytes ∈ input.take numProofs.toNat, verifyInnerProof vkey bytes = verifyInnerProof other bytes) :
    Aggregation.main verifyInnerProof numProofs vkey input = Aggregation.main verifyInnerProof numProofs other input := by
  have collected : collectJournals verifyInnerProof vkey numProofs.toNat input =
      collectJournals verifyInnerProof other numProofs.toNat input := by
    apply Option.ext
    intro journals
    have agree : (∀ bytes ∈ input.take numProofs.toNat, verifyInnerProof vkey bytes = true) ↔
        ∀ bytes ∈ input.take numProofs.toNat, verifyInnerProof other bytes = true :=
      forall₂_congr fun bytes member => by rw [same bytes member]
    rw [collect_journals_iff, collect_journals_iff, agree]
  rw [Aggregation.main, Aggregation.main, collected]

theorem single_part_commits (verifyInnerProof : Vkey → Bytes → Bool) (vkey : Vkey) (journal : StateTransitionJournal)
    (accepted : verifyInnerProof vkey (toAbiBytes journal) = true) :
    Aggregation.main verifyInnerProof 1 vkey [toAbiBytes journal] = some (toAbiBytes journal) := by
  have encoded := main_encoded verifyInnerProof 1 vkey [journal] rfl (by simpa using accepted)
  rw [List.map_cons, List.map_nil] at encoded
  rw [encoded]
  rfl

/-- The key of the inner program is an input that the aggregation guest does not check and that
leaves no trace in what is committed. -/
theorem inner_key_unbound (v : Verifiers) (verifyInnerProof : Vkey → Bytes → Bool) (backend : Backend) (s : State)
    (complete : ∀ values, CommittedByGuest verifyInnerProof values → ∃ proof, accepts v s ⟨backend, values, proof⟩ = true)
    (echo : Vkey) (provable : ∀ bytes, verifyInnerProof echo bytes = true) :
    (∀ numProofs vkey other input,
      (∀ bytes ∈ input.take numProofs.toNat, verifyInnerProof vkey bytes = verifyInnerProof other bytes) →
      Aggregation.main verifyInnerProof numProofs vkey input = Aggregation.main verifyInnerProof numProofs other input) ∧
      ∀ msg number root l1Head, isBlockProven s number = false →
        ∃ sub after event, execute v s ⟨msg, submit sub⟩ = .ok (after, event) ∧
          after.proposals number = ⟨root, number, l1Head, msg.timestamp.setWidth 128⟩ := by
  refine ⟨main_key_free verifyInnerProof, ?_⟩
  intro msg number root l1Head free
  have forged : CommittedByGuest verifyInnerProof (toAbiBytes ⟨l1Head, zeroWord, root, number, zeroWord, zeroWord⟩) :=
    ⟨1, echo, _, single_part_commits verifyInnerProof echo _ (provable _)⟩
  obtain ⟨proof, accepted⟩ := complete _ forged
  have committed := submit_commits v s msg _ (abi_bytes_length _) accepted (by rw [l2_block_number_of_abi_bytes]; exact free)
  refine ⟨_, _, _, committed, ?_⟩
  have here := record_here msg (toAbiBytes ⟨l1Head, zeroWord, root, number, zeroWord, zeroWord⟩) s
  rw [l2_block_number_of_abi_bytes, outputProposal, l2_post_root_of_abi_bytes, l2_block_number_of_abi_bytes,
    l1_head_of_abi_bytes] at here
  exact here

theorem inner_key_unbound_sample :
    ∃ sub after event, execute mockVerifiers mockDeployed ⟨⟨0x9, 100⟩, submit sub⟩ = .ok (after, event) ∧
      after.proposals 42 = ⟨wordOfNat 0xcc, 42, wordOfNat 0xaa, (100 : BitVec 256).setWidth 128⟩ :=
  (inner_key_unbound mockVerifiers (fun (_ : Vector UInt32 8) _ => true) .sp1 mockDeployed (fun _ _ => ⟨[], rfl⟩)
    (Vector.replicate 8 0) (fun _ => rfl)).2 ⟨0x9, 100⟩ 42 (wordOfNat 0xcc) (wordOfNat 0xaa) (mock_deployed_unproven 42)

end OpenZk.Oracle
