import OpenZk.DisputeLifecycle
import OpenZk.EventLog

set_option autoImplicit false

namespace OpenZk.System

open Words

structure ProgramIds where
  sp1ProgramVKey : Bytes32
  risc0ImageId : Bytes32

structure ListedOutput where
  outputRoot : Bytes32
  l2BlockNumber : UInt64
  l1Head : Bytes32

structure ListedDispute where
  challenger : Address
  disputedOutputRoot : Bytes32
  verdict : Option Bool

/-- What a listener to both contracts keeps. It learns no timestamps, since no event carries one. -/
structure Listing where
  oracleIds : ProgramIds
  gameIds : ProgramIds
  latestBlockNumber : UInt64
  latestOutputRoot : Bytes32
  outputs : UInt64 → ListedOutput
  disputes : UInt64 → Option ListedDispute

def ProgramIds.set (ids : ProgramIds) (backend : Backend) (programId : Bytes32) : ProgramIds :=
  match backend with
  | .sp1 => { ids with sp1ProgramVKey := programId }
  | .riscZero => { ids with risc0ImageId := programId }

def Listing.submitted (listing : Listing) (outputRoot : Bytes32) (l2BlockNumber : UInt64) (l1Head : Bytes32) : Listing :=
  { listing with
    outputs := Function.update listing.outputs l2BlockNumber ⟨outputRoot, l2BlockNumber, l1Head⟩
    latestBlockNumber :=
      if l2BlockNumber > listing.latestBlockNumber then l2BlockNumber else listing.latestBlockNumber
    latestOutputRoot := if l2BlockNumber > listing.latestBlockNumber then outputRoot else listing.latestOutputRoot }

def Listing.absorb (listing : Listing) : Event → Listing
  | .oracle (.outputRootSubmitted outputRoot l2BlockNumber l1Head _) =>
      listing.submitted outputRoot l2BlockNumber l1Head
  | .oracle (.programIdUpdated backend programId) =>
      { listing with oracleIds := listing.oracleIds.set backend programId }
  | .game (.disputeCreated blockNumber challenger disputedOutputRoot) =>
      { listing with
        disputes := Function.update listing.disputes blockNumber (some ⟨challenger, disputedOutputRoot, none⟩) }
  | .game (.disputeResolved blockNumber valid _) =>
      { listing with
        disputes := Function.update listing.disputes blockNumber
          ((listing.disputes blockNumber).map fun dispute => { dispute with verdict := some valid }) }
  | .game (.programIdUpdated backend programId) =>
      { listing with gameIds := listing.gameIds.set backend programId }

def listedOutput (proposal : Oracle.OutputProposal) : ListedOutput :=
  ⟨proposal.outputRoot, proposal.l2BlockNumber, proposal.l1Head⟩

def listedDispute (dispute : DisputeGame.Dispute) : Option ListedDispute :=
  if dispute.createdAt = 0 then none
  else some ⟨dispute.challenger, dispute.disputedOutputRoot, if dispute.resolved then some dispute.valid else none⟩

def listing (s : State) : Listing where
  oracleIds := ⟨s.oracle.sp1ProgramVKey, s.oracle.risc0ImageId⟩
  gameIds := ⟨s.game.sp1ProgramVKey, s.game.risc0ImageId⟩
  latestBlockNumber := s.oracle.latestBlockNumber
  latestOutputRoot := s.oracle.latestOutputRoot
  outputs := fun number => listedOutput (s.oracle.proposals number)
  disputes := fun number => listedDispute (s.game.disputes number)

def events (v : Verifiers) (s : State) (txs : List Tx) : List Event := (machine v).log s txs

theorem listed_record (msg : Msg) (journal : Bytes) (oracle : Oracle.State) (game : DisputeGame.State) :
    listing ⟨Oracle.record msg journal oracle, game⟩ =
      (listing ⟨oracle, game⟩).submitted (l2PostRootOf journal) (l2BlockNumberOf journal) (l1HeadOf journal) := by
  have outputs : (fun number => listedOutput ((Oracle.record msg journal oracle).proposals number)) =
      Function.update (fun number => listedOutput (oracle.proposals number)) (l2BlockNumberOf journal)
        ⟨l2PostRootOf journal, l2BlockNumberOf journal, l1HeadOf journal⟩ := by
    funext number
    rw [Oracle.record_proposals]
    by_cases same : number = l2BlockNumberOf journal
    · subst number
      rw [Function.update_self, Function.update_self]
      rfl
    · rw [Function.update_of_ne same, Function.update_of_ne same]
  by_cases above : oracle.latestBlockNumber < l2BlockNumberOf journal
  · obtain ⟨number, root⟩ := Oracle.record_latest_above msg journal oracle above
    simp only [listing, Listing.submitted, Oracle.record_sp1_key, Oracle.record_risc0_key, outputs, number, root,
      gt_iff_lt, if_pos above]
  · obtain ⟨number, root⟩ := Oracle.record_latest_below msg journal oracle above
    simp only [listing, Listing.submitted, Oracle.record_sp1_key, Oracle.record_risc0_key, outputs, number, root,
      gt_iff_lt, if_neg above]

theorem oracle_event_told (v : Verifiers) (before after : State) (tx : Oracle.Tx) (event : Event)
    (committed : execute v before (.oracle tx) = .ok (after, event)) : listing after = (listing before).absorb event := by
  obtain ⟨oracleBefore, gameBefore⟩ := before
  obtain ⟨oracleAfter, gameAfter⟩ := after
  obtain ⟨emitted, outcome, same, rfl⟩ := execute_oracle v _ _ tx event committed
  dsimp only at outcome same
  subst same
  cases Oracle.execute_cases v oracleBefore oracleAfter tx emitted outcome with
  | submitted sub call length accepted free stored emittedEq =>
      subst stored emittedEq
      exact listed_record tx.msg sub.journal oracleBefore gameAfter
  | sp1Key vkey call owner stored emittedEq =>
      subst stored emittedEq
      rfl
  | risc0Key imageId call owner stored emittedEq =>
      subst stored emittedEq
      rfl

theorem listed_disputes (blockNumber : UInt64) (dispute : DisputeGame.Dispute) (s : DisputeGame.State) :
    (fun number => listedDispute ((DisputeGame.storeDispute blockNumber dispute s).disputes number)) =
      Function.update (fun number => listedDispute (s.disputes number)) blockNumber (listedDispute dispute) := by
  funext number
  by_cases same : number = blockNumber
  · subst number
    rw [DisputeGame.store_dispute_here, Function.update_self]
  · rw [DisputeGame.store_dispute_elsewhere _ _ _ _ same, Function.update_of_ne same]

theorem game_event_told (v : Verifiers) (before after : State) (tx : DisputeGame.Tx) (event : Event)
    (timed : Timed (.game tx)) (committed : execute v before (.game tx) = .ok (after, event)) :
    listing after = (listing before).absorb event := by
  obtain ⟨oracleBefore, gameBefore⟩ := before
  obtain ⟨oracleAfter, gameAfter⟩ := after
  obtain ⟨emitted, outcome, same, rfl⟩ := execute_game v _ _ tx event committed
  dsimp only at outcome same
  subst same
  cases DisputeGame.execute_cases v oracleAfter gameBefore gameAfter tx emitted outcome with
  | challenged blockNumber call proven absent stored emittedEq =>
      subst stored emittedEq
      have fresh : listedDispute (DisputeGame.newDispute oracleAfter tx.msg blockNumber) =
          some ⟨tx.msg.sender, (oracleAfter.proposals blockNumber).outputRoot, none⟩ :=
        if_neg (timed_nonzero (.game tx) timed)
      simp only [listing, Listing.absorb, listed_disputes, fresh]
      rfl
  | resolved blockNumber publicValues proofBytes number backend call found pending length named accepted stored emittedEq =>
      subst stored emittedEq
      have settled : listedDispute (DisputeGame.resolvedDispute (gameBefore.disputes blockNumber) publicValues) =
          (listedDispute (gameBefore.disputes blockNumber)).map fun dispute =>
            { dispute with
              verdict := some (DisputeGame.resolvedDispute (gameBefore.disputes blockNumber) publicValues).valid } := by
        simp only [listedDispute, DisputeGame.resolvedDispute, if_neg found, Option.map_some, if_true]
      simp only [listing, Listing.absorb, listed_disputes, settled]
      rfl
  | sp1Key vkey call owner stored emittedEq =>
      subst stored emittedEq
      rfl
  | risc0Key imageId call owner stored emittedEq =>
      subst stored emittedEq
      rfl

theorem event_told (v : Verifiers) (before after : State) (tx : Tx) (event : Event) (timed : Timed tx)
    (committed : execute v before tx = .ok (after, event)) : listing after = (listing before).absorb event := by
  cases tx with
  | oracle tx => exact oracle_event_told v before after tx event committed
  | game tx => exact game_event_told v before after tx event timed committed

theorem listed_open_iff (s : State) (number : UInt64) :
    DisputeGame.isDisputed s.game number = true ↔
      ∃ dispute, (listing s).disputes number = some dispute ∧ dispute.verdict = none := by
  rw [is_disputed_iff, phase]
  simp only [listing, listedDispute]
  by_cases absent : (s.game.disputes number).createdAt = 0
  · rw [phase_absent _ absent, if_pos absent]
    simp
  · rw [if_neg absent]
    cases resolved : (s.game.disputes number).resolved with
    | false => simp [phase_opened _ absent resolved]
    | true => simp [phase_resolved _ absent resolved]

/-- The two event streams are a complete record of the system, up to the times. -/
theorem events_reconstruct (v : Verifiers) (d : Deployment) (txs : List Tx) (timed : ∀ tx ∈ txs, Timed tx) :
    listing (run v (deploy d) txs) = (events v (deploy d) txs).foldl Listing.absorb (listing (deploy d)) ∧
      ∀ number,
        (Oracle.isBlockProven (run v (deploy d) txs).oracle number = true ↔
          (((events v (deploy d) txs).foldl Listing.absorb (listing (deploy d))).outputs number).outputRoot ≠ zeroWord) ∧
        (DisputeGame.isDisputed (run v (deploy d) txs).game number = true ↔
          ∃ dispute, ((events v (deploy d) txs).foldl Listing.absorb (listing (deploy d))).disputes number = some dispute ∧
            dispute.verdict = none) := by
  have followed := (machine v).listener_follows listing Listing.absorb (fun _ => True) Timed (deploy d) txs trivial timed
    (fun before tx after output permitted _ committed => ⟨trivial, event_told v before after tx output permitted committed⟩)
  refine ⟨followed, fun number => ?_⟩
  have replayed : (events v (deploy d) txs).foldl Listing.absorb (listing (deploy d)) = listing (run v (deploy d) txs) :=
    followed.symm
  rw [replayed]
  exact ⟨Oracle.proven_iff _ number, listed_open_iff _ number⟩

theorem events_reconstruct_sample :
    (∀ tx ∈ sampleTxs 0xcc 42 (Oracle.sampleJournal 0xbb 0xff 42), Timed tx) ∧
    listing (run Oracle.mockVerifiers (deploy sampleDeployment) (sampleTxs 0xcc 42 (Oracle.sampleJournal 0xbb 0xff 42))) =
      (events Oracle.mockVerifiers (deploy sampleDeployment)
        (sampleTxs 0xcc 42 (Oracle.sampleJournal 0xbb 0xff 42))).foldl Listing.absorb (listing (deploy sampleDeployment)) := by
  have timed : ∀ tx ∈ sampleTxs 0xcc 42 (Oracle.sampleJournal 0xbb 0xff 42), Timed tx := by
    intro tx member
    rcases List.mem_cons.mp member with rfl | member
    · decide
    · rcases List.mem_cons.mp member with rfl | member
      · decide
      · rw [List.mem_singleton.mp member]
        decide
  exact ⟨timed, (events_reconstruct Oracle.mockVerifiers sampleDeployment _ timed).1⟩

end OpenZk.System
