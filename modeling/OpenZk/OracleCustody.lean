import OpenZk.OracleRuns

set_option autoImplicit false

namespace OpenZk.Oracle

open Words WriteOnce

def journalOf (step : Step) : Option Bytes := (submission step.tx.call).map Submission.journal

def acceptedJournals (steps : List Step) : List Bytes := steps.filterMap journalOf

def lastRoot (journals : List Bytes) (number : UInt64) : Option Bytes32 :=
  (journals.reverse.find? (fun journal => l2BlockNumberOf journal = number)).map l2PostRootOf

def ChainOfCustody (steps : List Step) : Prop :=
  ∀ past step future journal, steps = past ++ step :: future → journalOf step = some journal →
    ∀ earlier ∈ acceptedJournals past,
      rollupConfigHashOf journal = rollupConfigHashOf earlier ∧
        ∃ stored ∈ acceptedJournals past,
          (step.before.proposals (l2BlockNumberOf stored)).outputRoot = l2PreRootOf journal

def JournalsChained (journals : List Bytes) : Prop :=
  ∀ past journal future, journals = past ++ journal :: future → ∀ earlier ∈ past,
    rollupConfigHashOf journal = rollupConfigHashOf earlier ∧
      ∃ number, lastRoot past number = some (l2PreRootOf journal)

theorem last_root_append (journals : List Bytes) (journal : Bytes) (number : UInt64) :
    lastRoot (journals ++ [journal]) number =
      if l2BlockNumberOf journal = number then some (l2PostRootOf journal) else lastRoot journals number := by
  by_cases names : l2BlockNumberOf journal = number <;> simp [lastRoot, names]

theorem last_root_member (journals : List Bytes) (number : UInt64) (root : Bytes32)
    (found : lastRoot journals number = some root) : ∃ journal ∈ journals, l2BlockNumberOf journal = number := by
  obtain ⟨journal, search, _⟩ := Option.map_eq_some_iff.mp found
  exact ⟨journal, by simpa using List.mem_of_find?_eq_some search, by simpa using List.find?_some search⟩

theorem last_root_exists (journals : List Bytes) (journal : Bytes) (member : journal ∈ journals) :
    ∃ root, lastRoot journals (l2BlockNumberOf journal) = some root := by
  cases search : journals.reverse.find? (fun other => l2BlockNumberOf other = l2BlockNumberOf journal) with
  | none =>
      have absent := List.find?_eq_none.mp search journal (by simpa using member)
      simp at absent
  | some other => exact ⟨l2PostRootOf other, by simp [lastRoot, search]⟩

theorem accepted_append (past new : List Step) :
    acceptedJournals (past ++ new) = acceptedJournals past ++ acceptedJournals new := List.filterMap_append

theorem accepted_submission (step : Step) (sub : Submission) (call : submission step.tx.call = some sub) :
    acceptedJournals [step] = [sub.journal] := by
  simp [acceptedJournals, journalOf, call]

theorem accepted_other (step : Step) (call : submission step.tx.call = none) : acceptedJournals [step] = [] := by
  simp [acceptedJournals, journalOf, call]

theorem run_stores_last (v : Verifiers) (deployer : Msg) (sp1 risc0 : Address) (vkey imageId : Bytes32) (txs : List Tx)
    (number : UInt64) :
    ((run v (deploy deployer sp1 risc0 vkey imageId) txs).proposals number).outputRoot =
      (lastRoot (acceptedJournals (history v (deploy deployer sp1 risc0 vkey imageId) txs)) number).getD zeroWord := by
  apply (machine v).history_invariant
    (fun past s => (s.proposals number).outputRoot = (lastRoot (acceptedJournals past) number).getD zeroWord)
    (fun _ => True) _ txs rfl (fun _ _ => trivial)
  intro past before tx after event _ agrees committed
  cases execute_records v before after tx event committed with
  | submitted sub call length accepted free stored =>
      subst stored
      rw [accepted_append, accepted_submission _ sub call, last_root_append]
      by_cases names : l2BlockNumberOf sub.journal = number
      · subst number
        rw [if_pos rfl, record_here]
        rfl
      · rw [if_neg names, record_elsewhere _ _ _ _ (Ne.symm names), agrees]
  | kept call proposals latest latestRoot =>
      rw [accepted_append, accepted_other _ call, List.append_nil, ← agrees, proposals]

theorem stored_root_iff (v : Verifiers) (deployer : Msg) (sp1 risc0 : Address) (vkey imageId : Bytes32) (txs : List Tx)
    (root : Bytes32) :
    (∃ stored ∈ acceptedJournals (history v (deploy deployer sp1 risc0 vkey imageId) txs),
      ((run v (deploy deployer sp1 risc0 vkey imageId) txs).proposals (l2BlockNumberOf stored)).outputRoot = root) ↔
    ∃ number, lastRoot (acceptedJournals (history v (deploy deployer sp1 risc0 vkey imageId) txs)) number = some root := by
  constructor
  · intro given
    obtain ⟨stored, member, same⟩ := given
    obtain ⟨found, search⟩ := last_root_exists _ stored member
    rw [run_stores_last, search, Option.getD_some] at same
    exact ⟨l2BlockNumberOf stored, by rw [search, same]⟩
  · intro given
    obtain ⟨number, search⟩ := given
    obtain ⟨stored, member, names⟩ := last_root_member _ number root search
    refine ⟨stored, member, ?_⟩
    rw [names, run_stores_last, search, Option.getD_some]

theorem custody_iff_chained (v : Verifiers) (deployer : Msg) (sp1 risc0 : Address) (vkey imageId : Bytes32)
    (txs : List Tx) :
    ChainOfCustody (history v (deploy deployer sp1 risc0 vkey imageId) txs) ↔
      JournalsChained (acceptedJournals (history v (deploy deployer sp1 risc0 vkey imageId) txs)) := by
  constructor
  · intro custody pastJournals journal futureJournals split earlier member
    obtain ⟨front, rest, shape, pastEq, restEq⟩ := List.filterMap_eq_append_iff.mp split
    obtain ⟨skipped, step, future, restShape, none, found, _⟩ := List.filterMap_eq_cons_iff.mp restEq
    subst restShape
    have past : acceptedJournals (front ++ skipped) = pastJournals := by
      rw [accepted_append, show acceptedJournals front = pastJournals from pastEq,
        show acceptedJournals skipped = [] from List.filterMap_eq_nil_iff.mpr none, List.append_nil]
    have located : history v (deploy deployer sp1 risc0 vkey imageId) txs = (front ++ skipped) ++ step :: future := by
      rw [shape, List.append_assoc]
    obtain ⟨same, linked⟩ := custody _ step future journal located found earlier (by rw [past]; exact member)
    -- What is stored before a step is what the earlier journals say.
    obtain ⟨before, back, _, beforeEq, pastHistory, _, _⟩ := (machine v).history_split _ txs _ _ step located
    refine ⟨same, ?_⟩
    rw [beforeEq, pastHistory] at linked
    rw [← past, pastHistory]
    exact (stored_root_iff v deployer sp1 risc0 vkey imageId before _).mp linked
  · intro chained past step future journal split found earlier member
    have accepted : acceptedJournals (history v (deploy deployer sp1 risc0 vkey imageId) txs) =
        acceptedJournals past ++ journal :: acceptedJournals future := by
      rw [split, accepted_append, acceptedJournals, acceptedJournals, List.filterMap_cons_some found]
      rfl
    obtain ⟨same, linked⟩ := chained _ journal _ accepted earlier member
    obtain ⟨before, back, _, beforeEq, pastHistory, _, _⟩ := (machine v).history_split _ txs past future step split
    refine ⟨same, ?_⟩
    rw [pastHistory] at linked
    rw [beforeEq, pastHistory]
    exact (stored_root_iff v deployer sp1 risc0 vkey imageId before _).mpr linked

theorem execute_ignores_links (v : Verifiers) (s : State) (msg : Msg) (backend : Backend) (journal other proof otherProof : Bytes)
    (length : journal.length = 192) (otherLength : other.length = 192)
    (accepted : accepts v s ⟨backend, journal, proof⟩ = accepts v s ⟨backend, other, otherProof⟩)
    (l1Head : l1HeadOf journal = l1HeadOf other) (postRoot : l2PostRootOf journal = l2PostRootOf other)
    (number : l2BlockNumberOf journal = l2BlockNumberOf other) :
    execute v s ⟨msg, submit ⟨backend, journal, proof⟩⟩ = execute v s ⟨msg, submit ⟨backend, other, otherProof⟩⟩ := by
  have sameRecord : record msg journal s = record msg other s := by
    simp only [record, outputProposal, l1Head, postRoot, number]
  simp only [execute_submit, length, otherLength, accepted, l1Head, postRoot, number, sameRecord]

/-- The pre-root and the configuration hash are not looked at, so custody is a matter of which
journals the verifiers let through. -/
theorem custody_left_to_verifiers (v : Verifiers) (deployer : Msg) (sp1 risc0 : Address) (vkey imageId : Bytes32)
    (txs : List Tx) :
    (∀ step ∈ history v (deploy deployer sp1 risc0 vkey imageId) txs, ∀ sub, submission step.tx.call = some sub →
      sub.journal.length = 192 ∧ accepts v step.before sub = true ∧
        isBlockProven step.before (l2BlockNumberOf sub.journal) = false) ∧
    (∀ msg backend journal other proof otherProof, journal.length = 192 → other.length = 192 →
      accepts v (run v (deploy deployer sp1 risc0 vkey imageId) txs) ⟨backend, journal, proof⟩ =
        accepts v (run v (deploy deployer sp1 risc0 vkey imageId) txs) ⟨backend, other, otherProof⟩ →
      l1HeadOf journal = l1HeadOf other → l2PostRootOf journal = l2PostRootOf other →
      l2BlockNumberOf journal = l2BlockNumberOf other →
      execute v (run v (deploy deployer sp1 risc0 vkey imageId) txs) ⟨msg, submit ⟨backend, journal, proof⟩⟩ =
        execute v (run v (deploy deployer sp1 risc0 vkey imageId) txs) ⟨msg, submit ⟨backend, other, otherProof⟩⟩) ∧
    (ChainOfCustody (history v (deploy deployer sp1 risc0 vkey imageId) txs) ↔
      JournalsChained (acceptedJournals (history v (deploy deployer sp1 risc0 vkey imageId) txs))) := by
  refine ⟨?_, ?_, custody_iff_chained v deployer sp1 risc0 vkey imageId txs⟩
  · intro step member sub call
    have committed := (machine v).history_exec _ txs step member
    obtain ⟨length, accepted, free, _, _⟩ := execute_submitted v step.before step.after step.tx step.output sub call committed
    exact ⟨length, accepted, free⟩
  · intro msg backend journal other proof otherProof length otherLength accepted l1Head postRoot number
    exact execute_ignores_links v _ msg backend journal other proof otherProof length otherLength accepted l1Head postRoot number

theorem custody_left_to_verifiers_sample :
    execute mockVerifiers (run mockVerifiers mockDeployed []) ⟨⟨0x9, 100⟩, submit ⟨.sp1, sampleJournal 0xbb 0xcc 42, []⟩⟩ =
      execute mockVerifiers (run mockVerifiers mockDeployed [])
        ⟨⟨0x9, 100⟩, submit ⟨.sp1, sampleJournal 0xff 0xcc 42, []⟩⟩ := by
  unfold mockDeployed
  apply (custody_left_to_verifiers mockVerifiers ⟨0x7, 1⟩ 0x51 0x52 (wordOfNat 0x1234) (wordOfNat 0x5678) []).2.1
  · exact sample_length 0xbb 0xcc 42
  · exact sample_length 0xff 0xcc 42
  · rfl
  · exact (l1_head_of_abi_bytes _).trans (l1_head_of_abi_bytes _).symm
  · rw [sample_post_root, sample_post_root]
  · rw [sample_number, sample_number]

theorem unrelated_pre_root_accepted :
    acceptedJournals (history mockVerifiers mockDeployed [sampleTx 0xbb 0xcc 100, sampleTx 0xbb 0xff 50]) =
        [sampleJournal 0xbb 0xcc 100, sampleJournal 0xbb 0xff 50] ∧
      ¬ ChainOfCustody (history mockVerifiers mockDeployed [sampleTx 0xbb 0xcc 100, sampleTx 0xbb 0xff 50]) := by
  have free : isBlockProven (record ⟨0x9, 100⟩ (sampleJournal 0xbb 0xcc 100) mockDeployed) 50 = false := by
    rw [unproven_iff, record_elsewhere _ _ _ _ (by rw [sample_number]; decide)]
    exact (unproven_iff mockDeployed 50).mp (mock_deployed_unproven 50)
  have accepted : acceptedJournals (history mockVerifiers mockDeployed [sampleTx 0xbb 0xcc 100, sampleTx 0xbb 0xff 50]) =
      [sampleJournal 0xbb 0xcc 100, sampleJournal 0xbb 0xff 50] := by
    rw [history_execute _ _ _ _ _ _ (sample_commits mockDeployed 0xbb 0xcc 100 (mock_deployed_unproven 100)),
      history_execute _ _ _ _ _ _ (sample_commits _ 0xbb 0xff 50 free)]
    rfl
  refine ⟨accepted, ?_⟩
  intro custody
  have chained := (custody_iff_chained mockVerifiers ⟨0x7, 1⟩ 0x51 0x52 (wordOfNat 0x1234) (wordOfNat 0x5678) _).mp custody
  rw [show deploy ⟨0x7, 1⟩ 0x51 0x52 (wordOfNat 0x1234) (wordOfNat 0x5678) = mockDeployed from rfl, accepted] at chained
  obtain ⟨_, number, found⟩ := chained [sampleJournal 0xbb 0xcc 100] _ [] rfl (sampleJournal 0xbb 0xcc 100) (by simp)
  have only := last_root_append [] (sampleJournal 0xbb 0xcc 100) number
  rw [List.nil_append, found, sample_post_root, show l2PreRootOf (sampleJournal 0xbb 0xff 50) = wordOfNat 0xbb from
    l2_pre_root_of_abi_bytes _] at only
  split at only
  · exact absurd (word_of_nat_inj 0xbb 0xcc (by decide) (by decide) (Option.some.inj only)) (by decide)
  · cases only

end OpenZk.Oracle
