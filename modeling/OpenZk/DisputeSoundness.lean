import OpenZk.DisputeSystem

set_option autoImplicit false

namespace OpenZk.System

open Words WriteOnce

/-- Verifiers that accept true journals only, whichever contract asks them and whichever key it asks them under. -/
structure Sound (v : Verifiers) (root : UInt64 → Bytes32) : Prop where
  sp1 : ∀ verifier vkey journal proof, journal.length = 192 → v.verifyProof verifier vkey journal proof = true →
    l2PostRootOf journal = root (l2BlockNumberOf journal)
  risc0 : ∀ verifier sealBytes imageId journal, journal.length = 192 →
    v.verify verifier sealBytes imageId (v.sha256 journal) = true →
    l2PostRootOf journal = root (l2BlockNumberOf journal)

def OracleTrue (root : UInt64 → Bytes32) (oracle : Oracle.State) : Prop :=
  ∀ number, Oracle.isBlockProven oracle number = true → (oracle.proposals number).outputRoot = root number

def DisputesSound (root : UInt64 → Bytes32) (s : State) : Prop :=
  ∀ number, (s.game.disputes number).resolved = true →
    ((s.game.disputes number).valid = true ↔ (s.game.disputes number).disputedOutputRoot = root number)

def AnswersDispute (root : UInt64 → Bytes32) (tx : Tx) : Prop :=
  ∀ msg number publicValues proofBytes choice, tx = .game ⟨msg, .resolve number publicValues proofBytes choice⟩ →
    root (l2BlockNumberOf publicValues) = root number

theorem sound_oracle_accepts (v : Verifiers) (root : UInt64 → Bytes32) (sound : Sound v root) (oracle : Oracle.State)
    (sub : Oracle.Submission) (length : sub.journal.length = 192) (accepted : Oracle.accepts v oracle sub = true) :
    l2PostRootOf sub.journal = root (l2BlockNumberOf sub.journal) := by
  obtain ⟨backend, journal, proof⟩ := sub
  cases backend with
  | sp1 => exact sound.sp1 _ _ journal proof length accepted
  | riscZero => exact sound.risc0 _ proof _ journal length accepted

theorem sound_game_accepts (v : Verifiers) (root : UInt64 → Bytes32) (sound : Sound v root) (game : DisputeGame.State)
    (backend : Backend) (publicValues proofBytes : Bytes) (length : publicValues.length = 192)
    (accepted : DisputeGame.accepts v game backend publicValues proofBytes = true) :
    l2PostRootOf publicValues = root (l2BlockNumberOf publicValues) := by
  cases backend with
  | sp1 => exact sound.sp1 _ _ publicValues proofBytes length accepted
  | riscZero => exact sound.risc0 _ proofBytes _ publicValues length accepted

theorem oracle_true_congr (root : UInt64 → Bytes32) (a b : Oracle.State) (same : a.proposals = b.proposals)
    (truth : OracleTrue root a) : OracleTrue root b := by
  intro number proven
  rw [Oracle.proven_iff, ← same] at proven
  rw [← same]
  exact truth number ((Oracle.proven_iff a number).mpr proven)

theorem oracle_execute_true (v : Verifiers) (root : UInt64 → Bytes32) (sound : Sound v root)
    (before after : Oracle.State) (tx : Oracle.Tx) (event : Oracle.Event) (truth : OracleTrue root before)
    (committed : Oracle.execute v before tx = .ok (after, event)) : OracleTrue root after := by
  cases Oracle.execute_records v before after tx event committed with
  | submitted sub call length accepted free stored =>
      subst stored
      intro number proven
      by_cases same : number = l2BlockNumberOf sub.journal
      · subst number
        rw [Oracle.record_here]
        exact sound_oracle_accepts v root sound before sub length accepted
      · rw [Oracle.record_elsewhere _ _ _ _ same]
        apply truth number
        rw [Oracle.proven_iff] at proven ⊢
        rwa [Oracle.record_elsewhere _ _ _ _ same] at proven
  | kept call proposals latest latestRoot => exact oracle_true_congr root before after proposals.symm truth

theorem execute_true (v : Verifiers) (root : UInt64 → Bytes32) (sound : Sound v root) (before after : State) (tx : Tx)
    (event : Event) (truth : OracleTrue root before.oracle) (committed : execute v before tx = .ok (after, event)) :
    OracleTrue root after.oracle := by
  cases tx with
  | oracle tx =>
      obtain ⟨emitted, outcome, _, _⟩ := execute_oracle v before after tx event committed
      exact oracle_execute_true v root sound before.oracle after.oracle tx emitted truth outcome
  | game tx =>
      obtain ⟨_, _, same, _⟩ := execute_game v before after tx event committed
      rw [same]
      exact truth

theorem run_true (v : Verifiers) (root : UInt64 → Bytes32) (sound : Sound v root) (d : Deployment) (txs : List Tx) :
    OracleTrue root (run v (deploy d) txs).oracle := by
  apply (machine v).run_invariant (fun s => OracleTrue root s.oracle) (fun _ => True) (deploy d) txs
  · intro number proven
    rw [Oracle.proven_iff] at proven
    exact absurd rfl proven
  · exact fun _ _ => trivial
  · intro before tx after event _ truth committed
    exact execute_true v root sound before after tx event truth committed

theorem mirror_true (root : UInt64 → Bytes32) (oracle : Oracle.State) (truth : OracleTrue root oracle) (number : UInt64)
    (dispute : DisputeGame.Dispute) (mirrors : Mirrors oracle number dispute) :
    dispute.disputedOutputRoot = root number := by
  have proven : Oracle.isBlockProven oracle number = true := by
    rw [Oracle.proven_iff, ← mirrors.stored]
    exact mirrors.nonzero
  rw [mirrors.stored, truth number proven]

theorem disputed_root_true (v : Verifiers) (root : UInt64 → Bytes32) (sound : Sound v root) (d : Deployment)
    (txs : List Tx) (number : UInt64) (found : ((run v (deploy d) txs).game.disputes number).createdAt ≠ 0) :
    ((run v (deploy d) txs).game.disputes number).disputedOutputRoot = root number :=
  mirror_true root _ (run_true v root sound d txs) number _ (run_mirrors v d txs number found)

theorem resolved_sound_iff (root : UInt64 → Bytes32) (number : UInt64) (dispute : DisputeGame.Dispute)
    (publicValues : Bytes) (journalTrue : l2PostRootOf publicValues = root (l2BlockNumberOf publicValues))
    (disputeTrue : dispute.disputedOutputRoot = root number) :
    ((DisputeGame.resolvedDispute dispute publicValues).valid = true ↔
        (DisputeGame.resolvedDispute dispute publicValues).disputedOutputRoot = root number) ↔
      root (l2BlockNumberOf publicValues) = root number := by
  have valid : (DisputeGame.resolvedDispute dispute publicValues).valid = true ↔
      root (l2BlockNumberOf publicValues) = root number := by
    rw [DisputeGame.resolvedDispute, decide_eq_true_eq, journalTrue, disputeTrue]
  have disputed : (DisputeGame.resolvedDispute dispute publicValues).disputedOutputRoot = root number := disputeTrue
  rw [valid, iff_true_right disputed]

theorem answered_disputes_sound (v : Verifiers) (root : UInt64 → Bytes32) (sound : Sound v root) (d : Deployment)
    (txs : List Tx) (answered : ∀ step ∈ history v (deploy d) txs, AnswersDispute root step.tx) :
    DisputesSound root (run v (deploy d) txs) := by
  -- The invariant carries the two facts that a resolve is judged by.
  have general := (machine v).history_invariant
    (fun past s => (∀ step ∈ past, AnswersDispute root step.tx) →
      DisputesMirror s ∧ OracleTrue root s.oracle ∧ DisputesSound root s)
    (fun _ => True) (deploy d) txs ?_ (fun _ _ => trivial) ?_
  · exact (general answered).2.2
  · intro _
    refine ⟨run_mirrors v d [], run_true v root sound d [], ?_⟩
    intro number resolved
    cases resolved
  · intro past before tx after event _ held committed answers
    obtain ⟨mirrors, truth, settled⟩ := held (fun step member => answers step (by simp [member]))
    refine ⟨execute_mirrors v before after tx event mirrors committed,
      execute_true v root sound before after tx event truth committed, ?_⟩
    intro number resolved
    cases execute_dispute v before after tx event number committed with
    | kept same =>
        rw [same] at resolved ⊢
        exact settled number resolved
    | challenged msg call proven absent stored =>
        rw [stored] at resolved
        cases resolved
    | resolved msg publicValues proofBytes choice backend call found pending length accepted stored =>
        have disputeTrue := mirror_true root before.oracle truth number _ (mirrors number found)
        rw [stored]
        apply (resolved_sound_iff root number _ publicValues
          (sound_game_accepts v root sound before.game backend publicValues proofBytes length accepted) disputeTrue).mpr
        exact answers ⟨before, tx, after, event⟩ (by simp) msg number publicValues proofBytes choice call

/-- Under sound verifiers every resolved dispute is settled soundly exactly when every accepted
resolve presents a journal that answers the dispute. Nothing in resolve compares the journal's block
with the disputed one. -/
theorem disputes_sound_iff (v : Verifiers) (root : UInt64 → Bytes32) (sound : Sound v root) (d : Deployment)
    (txs : List Tx) :
    DisputesSound root (run v (deploy d) txs) ↔
      ∀ step ∈ history v (deploy d) txs, AnswersDispute root step.tx := by
  refine ⟨?_, answered_disputes_sound v root sound d txs⟩
  intro settled step member msg number publicValues proofBytes choice call
  obtain ⟨front, back, _, beforeEq, committed, final⟩ := (machine v).history_located _ txs step member
  rw [call] at committed
  obtain ⟨found, length, ⟨backend, accepted⟩, stored⟩ :=
    execute_resolve v step.before step.after msg number publicValues proofBytes choice step.output committed
  have disputeTrue : (step.before.game.disputes number).disputedOutputRoot = root number := by
    rw [beforeEq] at found ⊢
    exact disputed_root_true v root sound d front number found
  have frozen : (run v (deploy d) txs).game.disputes number = step.after.game.disputes number := by
    rw [show run v (deploy d) txs = run v step.after back from final]
    apply run_resolved_frozen v step.after back number
    · rw [stored]
      exact found
    · rw [stored]
      rfl
  have holds := settled number
  rw [frozen, stored] at holds
  exact (resolved_sound_iff root number _ publicValues
    (sound_game_accepts v root sound step.before.game backend publicValues proofBytes length accepted) disputeTrue).mp
    (holds rfl)

def sampleRoot (number : UInt64) : Bytes32 := wordOfNat (number.toNat + 1)

def honestVerifiers : Verifiers where
  verifyProof := fun _ _ journal _ => decide (l2PostRootOf journal = sampleRoot (l2BlockNumberOf journal))
  verify := fun _ _ _ _ => false
  sha256 := fun _ => zeroWord

theorem honest_verifiers_sound : Sound honestVerifiers sampleRoot := by
  refine ⟨?_, ?_⟩
  · intro verifier vkey journal proof _ accepted
    simpa [honestVerifiers] using accepted
  · intro verifier sealBytes imageId journal _ accepted
    simp [honestVerifiers] at accepted

theorem disputes_sound_sample :
    DisputesSound sampleRoot (run honestVerifiers (deploy sampleDeployment) (sampleTxs 43 42 (Oracle.sampleJournal 0xbb 43 42))) ↔
      ∀ step ∈ history honestVerifiers (deploy sampleDeployment) (sampleTxs 43 42 (Oracle.sampleJournal 0xbb 43 42)),
        AnswersDispute sampleRoot step.tx :=
  disputes_sound_iff honestVerifiers sampleRoot honest_verifiers_sound sampleDeployment
    (sampleTxs 43 42 (Oracle.sampleJournal 0xbb 43 42))

theorem honest_accepts_sample (postRoot : Nat) (number : UInt64) (true_root : postRoot = number.toNat + 1) :
    honestVerifiers.verifyProof 0x51 (wordOfNat 0x1234) (Oracle.sampleJournal 0xbb postRoot number) [0xde, 0xad] = true := by
  simp [honestVerifiers, Oracle.sample_post_root, Oracle.sample_number, sampleRoot, true_root]

theorem foreign_journal_refutes_true_root :
    Sound honestVerifiers sampleRoot ∧
      ¬ DisputesSound sampleRoot
        (run honestVerifiers (deploy sampleDeployment) (sampleTxs 43 42 (Oracle.sampleJournal 0xbb 8 7))) := by
  refine ⟨honest_verifiers_sound, ?_⟩
  intro settled
  have dispute := sample_dispute honestVerifiers 43 42 (Oracle.sampleJournal 0xbb 8 7)
    (word_of_nat_ne_zero 43 (by decide) (by decide)) (Oracle.sample_length _ _ _)
    (fun _ => honest_accepts_sample 43 42 rfl) (fun _ => honest_accepts_sample 8 7 rfl)
  have holds := settled 42
  rw [dispute] at holds
  have valid := (holds rfl).mpr rfl
  rw [DisputeGame.resolvedDispute, decide_eq_true_eq, Oracle.sample_post_root] at valid
  exact absurd (word_of_nat_inj 8 43 (by decide) (by decide) valid) (by decide)

end OpenZk.System
