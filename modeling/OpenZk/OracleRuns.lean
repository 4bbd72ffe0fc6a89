import OpenZk.OutputOracle
import OpenZk.WriteOnce

set_option autoImplicit false

namespace OpenZk.Oracle

open Words WriteOnce

abbrev Step := Commit State Tx Event

def run (v : Verifiers) (s : State) (txs : List Tx) : State := (machine v).run s txs

def history (v : Verifiers) (s : State) (txs : List Tx) : List Step := (machine v).history s txs

theorem run_empty (v : Verifiers) (s : State) : run v s [] = s := rfl

theorem run_execute (v : Verifiers) (s after : State) (tx : Tx) (event : Event) (rest : List Tx)
    (committed : execute v s tx = .ok (after, event)) : run v s (tx :: rest) = run v after rest :=
  (machine v).run_commit s after tx event rest committed

theorem history_execute (v : Verifiers) (s after : State) (tx : Tx) (event : Event) (rest : List Tx)
    (committed : execute v s tx = .ok (after, event)) :
    history v s (tx :: rest) = ⟨s, tx, after, event⟩ :: history v after rest :=
  (machine v).history_commit s after tx event rest committed

def proven (s : State) : Registry UInt64 OutputProposal :=
  fun number => if isBlockProven s number then some (s.proposals number) else none

def registration (step : Step) : Option (UInt64 × OutputProposal) :=
  match submission step.tx.call with
  | none => none
  | some sub =>
      if l2PostRootOf sub.journal = zeroWord then none
      else some (l2BlockNumberOf sub.journal, outputProposal step.tx.msg sub.journal)

theorem proven_iff (s : State) (number : UInt64) :
    isBlockProven s number = true ↔ (s.proposals number).outputRoot ≠ zeroWord := by
  simp [isBlockProven]

theorem unproven_iff (s : State) (number : UInt64) :
    isBlockProven s number = false ↔ (s.proposals number).outputRoot = zeroWord := by
  simp [isBlockProven]

theorem proven_lookup (s : State) (number : UInt64) (holds : isBlockProven s number = true) :
    proven s number = some (s.proposals number) := by
  rw [proven, if_pos holds]

theorem proven_absent (s : State) (number : UInt64) (absent : isBlockProven s number = false) :
    proven s number = none := by
  rw [proven, absent, if_neg Bool.false_ne_true]

theorem proven_value (s : State) (number : UInt64) (proposal : OutputProposal) (found : proven s number = some proposal) :
    s.proposals number = proposal := by
  rw [proven] at found
  split at found
  · exact Option.some.inj found
  · cases found

theorem proven_congr (a b : State) (same : a.proposals = b.proposals) : proven a = proven b := by
  unfold proven isBlockProven
  rw [same]

theorem record_proven_here (msg : Msg) (journal : Bytes) (s : State) :
    isBlockProven (record msg journal s) (l2BlockNumberOf journal) = true ↔ l2PostRootOf journal ≠ zeroWord := by
  rw [proven_iff, record_here]
  rfl

theorem record_proven_elsewhere (msg : Msg) (journal : Bytes) (s : State) (number : UInt64)
    (different : number ≠ l2BlockNumberOf journal) :
    proven (record msg journal s) number = proven s number := by
  unfold proven isBlockProven
  rw [record_elsewhere msg journal s number different]

theorem record_registers (msg : Msg) (journal : Bytes) (s : State) (root : l2PostRootOf journal ≠ zeroWord) :
    proven (record msg journal s) =
      register (l2BlockNumberOf journal) (outputProposal msg journal) (proven s) := by
  funext number
  by_cases same : number = l2BlockNumberOf journal
  · subst number
    rw [proven_lookup _ _ ((record_proven_here msg journal s).mpr root), record_here, register, Function.update_self]
  · rw [record_proven_elsewhere msg journal s number same, register, Function.update_of_ne same]

theorem record_zero_root (msg : Msg) (journal : Bytes) (s : State) (root : l2PostRootOf journal = zeroWord)
    (free : isBlockProven s (l2BlockNumberOf journal) = false) : proven (record msg journal s) = proven s := by
  funext number
  by_cases same : number = l2BlockNumberOf journal
  · subst number
    have absent : isBlockProven (record msg journal s) (l2BlockNumberOf journal) = false := by
      rw [unproven_iff, record_here]
      exact root
    rw [proven_absent _ _ absent, proven_absent _ _ free]
  · exact record_proven_elsewhere msg journal s number same

theorem execute_extends (v : Verifiers) (before after : State) (tx : Tx) (event : Event)
    (committed : execute v before tx = .ok (after, event)) : Extends (proven before) (proven after) := by
  cases execute_records v before after tx event committed with
  | submitted sub call length accepted free stored =>
      subst stored
      by_cases root : l2PostRootOf sub.journal = zeroWord
      · rw [record_zero_root tx.msg sub.journal before root free]
        exact extends_refl _
      · rw [record_registers tx.msg sub.journal before root]
        exact register_extends _ _ _ (proven_absent before _ free)
  | kept call proposals latest latestRoot =>
      rw [proven_congr after before proposals]
      exact extends_refl _

theorem run_extends (v : Verifiers) (s : State) (txs : List Tx) : Extends (proven s) (proven (run v s txs)) := by
  apply (machine v).run_invariant (fun state => Extends (proven s) (proven state)) (fun _ => True) s txs
    (extends_refl _) (fun _ _ => trivial)
  intro before tx after event _ grown committed
  exact extends_trans _ _ _ grown (execute_extends v before after tx event committed)

theorem proven_block_stays (v : Verifiers) (s : State) (txs : List Tx) (number : UInt64)
    (holds : isBlockProven s number = true) :
    isBlockProven (run v s txs) number = true ∧ (run v s txs).proposals number = s.proposals number := by
  have kept := run_extends v s txs number (s.proposals number) (proven_lookup s number holds)
  unfold proven at kept
  split at kept
  · rename_i later
    exact ⟨later, Option.some.inj kept⟩
  · cases kept

theorem deploy_unproven (deployer : Msg) (sp1 risc0 : Address) (vkey imageId : Bytes32) :
    proven (deploy deployer sp1 risc0 vkey imageId) = emptyRegistry := by
  funext number
  exact proven_absent _ _ (by simp [isBlockProven, deploy, emptyProposal])

/-- The refinement: the accepted submissions with a non-zero root, in the order in which they were
accepted, are the registry's entries. -/
theorem run_describes (v : Verifiers) (deployer : Msg) (sp1 risc0 : Address) (vkey imageId : Bytes32) (txs : List Tx) :
    Describes ((history v (deploy deployer sp1 risc0 vkey imageId) txs).filterMap registration)
      (proven (run v (deploy deployer sp1 risc0 vkey imageId) txs)) := by
  apply (machine v).history_invariant (fun past state => Describes (past.filterMap registration) (proven state))
    (fun _ => True) _ txs
  · rw [deploy_unproven]
    exact describes_empty
  · exact fun _ _ => trivial
  · intro past before tx after event _ described committed
    rw [List.filterMap_append]
    cases execute_records v before after tx event committed with
    | submitted sub call length accepted free stored =>
        subst stored
        by_cases root : l2PostRootOf sub.journal = zeroWord
        · rw [record_zero_root tx.msg sub.journal before root free]
          simpa [registration, call, root] using described
        · rw [record_registers tx.msg sub.journal before root]
          have entry : registration ⟨before, tx, record tx.msg sub.journal before, event⟩ =
              some (l2BlockNumberOf sub.journal, outputProposal tx.msg sub.journal) := by
            simp [registration, call, root]
          rw [List.filterMap_cons_some entry, List.filterMap_nil]
          exact describes_register _ _ _ _ described (proven_absent before _ free)
    | kept call proposals latest latestRoot =>
        rw [proven_congr after before proposals]
        simpa [registration, call] using described

/-- The devnet verifiers, which accept everything. The mock RISC Zero verifier ignores the digest it
is given, so its value is of no account. -/
def mockVerifiers : Verifiers where
  verifyProof := fun _ _ _ _ => true
  verify := fun _ _ _ _ => true
  sha256 := fun _ => zeroWord

theorem submit_commits (v : Verifiers) (s : State) (msg : Msg) (sub : Submission) (length : sub.journal.length = 192)
    (accepted : accepts v s sub = true) (free : isBlockProven s (l2BlockNumberOf sub.journal) = false) :
    execute v s ⟨msg, submit sub⟩ = .ok (record msg sub.journal s,
      .outputRootSubmitted (l2PostRootOf sub.journal) (l2BlockNumberOf sub.journal) (l1HeadOf sub.journal) sub.backend) := by
  simp [execute_submit, length, accepted, free]

def mockDeployed : State := deploy ⟨0x7, 1⟩ 0x51 0x52 (wordOfNat 0x1234) (wordOfNat 0x5678)

def sampleJournal (preRoot postRoot : Nat) (number : UInt64) : Bytes :=
  toAbiBytes ⟨wordOfNat 0xaa, wordOfNat preRoot, wordOfNat postRoot, number, wordOfNat 0xdd, wordOfNat 0xee⟩

def sampleTx (preRoot postRoot : Nat) (number : UInt64) : Tx :=
  ⟨⟨0x9, 100⟩, submit ⟨.sp1, sampleJournal preRoot postRoot number, [0xde, 0xad]⟩⟩

theorem sample_length (preRoot postRoot : Nat) (number : UInt64) : (sampleJournal preRoot postRoot number).length = 192 :=
  abi_bytes_length _

theorem sample_number (preRoot postRoot : Nat) (number : UInt64) :
    l2BlockNumberOf (sampleJournal preRoot postRoot number) = number := l2_block_number_of_abi_bytes _

theorem sample_post_root (preRoot postRoot : Nat) (number : UInt64) :
    l2PostRootOf (sampleJournal preRoot postRoot number) = wordOfNat postRoot := l2_post_root_of_abi_bytes _

theorem sample_commits (s : State) (preRoot postRoot : Nat) (number : UInt64) (free : isBlockProven s number = false) :
    execute mockVerifiers s (sampleTx preRoot postRoot number) =
      .ok (record ⟨0x9, 100⟩ (sampleJournal preRoot postRoot number) s,
        .outputRootSubmitted (wordOfNat postRoot) number
          (l1HeadOf (sampleJournal preRoot postRoot number)) .sp1) := by
  have committed := submit_commits mockVerifiers s ⟨0x9, 100⟩ ⟨.sp1, sampleJournal preRoot postRoot number, [0xde, 0xad]⟩
    (sample_length _ _ _) rfl (by rw [sample_number]; exact free)
  rw [sample_number, sample_post_root] at committed
  exact committed

theorem mock_deployed_unproven (number : UInt64) : isBlockProven mockDeployed number = false := by
  simp [isBlockProven, mockDeployed, deploy, emptyProposal]

theorem sample_recorded (msg : Msg) (preRoot postRoot : Nat) (number : UInt64) (s : State) :
    ((record msg (sampleJournal preRoot postRoot number) s).proposals number).outputRoot = wordOfNat postRoot := by
  have here := record_here msg (sampleJournal preRoot postRoot number) s
  rw [sample_number] at here
  rw [here, outputProposal, sample_post_root]

theorem sample_run (s : State) (preRoot postRoot : Nat) (number : UInt64) (free : isBlockProven s number = false) :
    run mockVerifiers s [sampleTx preRoot postRoot number] =
      record ⟨0x9, 100⟩ (sampleJournal preRoot postRoot number) s := by
  rw [run_execute _ _ _ _ _ _ (sample_commits s preRoot postRoot number free), run_empty]

end OpenZk.Oracle
