import OpenZk.RpcMonitor

set_option autoImplicit false

namespace OpenZk.System

open Words

def Disputed (s : State) (number : UInt64) : Prop := DisputeGame.isDisputed s.game number = true

structure SeesDispute (answer : Option DisputeInfo) (s : State) : Prop where
  found : (∃ number, Disputed s number) → ∃ info number, answer = some info ∧ info.startBlock ≤ number ∧
    number ≤ info.endBlock ∧ Disputed s number
  quiet : answer = none → ∀ number, ¬ Disputed s number

def Covered (s : State) : Prop := ∀ number, Disputed s number → Disputed s s.oracle.latestBlockNumber

def Watched (s : State) : Tx → Prop
  | .oracle tx => ∀ sub, Oracle.submission tx.call = some sub →
      s.oracle.latestBlockNumber < l2BlockNumberOf sub.journal → ∀ number, ¬ Disputed s number
  | .game ⟨msg, .challenge number⟩ => (msg.timestamp.setWidth 128 : BitVec 128) ≠ 0 →
      number = s.oracle.latestBlockNumber ∨ Disputed s s.oracle.latestBlockNumber
  | .game ⟨_, .resolve number _ _ _⟩ => number = s.oracle.latestBlockNumber →
      ∀ other, other ≠ number → ¬ Disputed s other
  | .game ⟨_, .setSp1ProgramVKey _⟩ => True
  | .game ⟨_, .setRisc0ImageId _⟩ => True

theorem disputed_iff (s : State) (number : UInt64) :
    Disputed s number ↔ (s.game.disputes number).createdAt ≠ 0 ∧ (s.game.disputes number).resolved = false := by
  simp [Disputed, DisputeGame.isDisputed]

theorem disputed_congr (before after : State) (number : UInt64)
    (same : after.game.disputes number = before.game.disputes number) : Disputed after number ↔ Disputed before number := by
  rw [disputed_iff, disputed_iff, same]

theorem covered_congr (before after : State) (game : after.game = before.game)
    (latest : after.oracle.latestBlockNumber = before.oracle.latestBlockNumber) : Covered after ↔ Covered before := by
  simp only [Covered, Disputed, game, latest]

theorem sees_dispute_iff (connect : String → RpcMonitor.Node) (monitor : RpcMonitor.RpcChainMonitor)
    (disputeAddress : Address) (s : State) (configured : monitor.disputeAddress = some disputeAddress)
    (serves : RpcMonitor.Serves (connect monitor.l1RpcUrl) monitor.oracleAddress disputeAddress s) :
    SeesDispute (RpcMonitor.activeDispute connect monitor) s ↔ Covered s := by
  rw [RpcMonitor.active_dispute_served connect monitor disputeAddress s configured serves]
  by_cases latest : DisputeGame.isDisputed s.game s.oracle.latestBlockNumber = true
  · rw [if_pos latest]
    constructor
    · exact fun _ _ _ => latest
    · intro _
      exact ⟨fun _ => ⟨_, _, rfl, UInt64.le_refl _, UInt64.le_refl _, latest⟩, fun missing => nomatch missing⟩
  · rw [if_neg latest]
    constructor
    · intro sees number disputed
      exact absurd disputed (sees.quiet rfl number)
    · intro covered
      have quiet : ∀ number, ¬ Disputed s number := fun number disputed => latest (covered number disputed)
      exact ⟨fun ⟨number, disputed⟩ => absurd disputed (quiet number), fun _ => quiet⟩

theorem unproven_undisputed (s : State) (number : UInt64) (mirror : DisputesMirror s)
    (free : Oracle.isBlockProven s.oracle number = false) : ¬ Disputed s number := by
  intro disputed
  have mirrors := mirror number ((disputed_iff s number).mp disputed).1
  rw [Oracle.unproven_iff] at free
  exact mirrors.nonzero (mirrors.stored.trans free)

theorem submission_covers (v : Verifiers) (before after : State) (tx : Oracle.Tx) (event : Event)
    (mirror : DisputesMirror before) (covered : Covered before)
    (committed : execute v before (.oracle tx) = .ok (after, event)) : Covered after ↔ Watched before (.oracle tx) := by
  obtain ⟨emitted, outcome, game, _⟩ := execute_oracle v before after tx event committed
  have same : ∀ number, Disputed after number ↔ Disputed before number := fun number =>
    disputed_congr before after number (by rw [game])
  cases Oracle.execute_records v before.oracle after.oracle tx emitted outcome with
  | kept call proposals latest latestRoot =>
      rw [covered_congr before after game latest]
      refine ⟨fun _ sub named => ?_, fun _ => covered⟩
      rw [call] at named
      cases named
  | submitted sub call length accepted free stored =>
      by_cases above : before.oracle.latestBlockNumber < l2BlockNumberOf sub.journal
      · have latest := (Oracle.record_latest_above tx.msg sub.journal before.oracle above).1
        rw [← stored] at latest
        -- The new latest block was unproven, so nobody has disputed it.
        have fresh := unproven_undisputed before _ mirror free
        constructor
        · intro coveredAfter other named _ number disputed
          have seen := coveredAfter number ((same number).mpr disputed)
          rw [latest, same] at seen
          exact fresh seen
        · intro watched number disputed
          exact absurd ((same number).mp disputed) (watched sub call above number)
      · have latest := (Oracle.record_latest_below tx.msg sub.journal before.oracle above).1
        rw [← stored] at latest
        rw [covered_congr before after game latest]
        refine ⟨fun _ other named higher => ?_, fun _ => covered⟩
        rw [call] at named
        obtain rfl := Option.some.inj named
        exact absurd higher above

theorem challenge_covers (v : Verifiers) (before after : State) (msg : Msg) (number : UInt64) (event : Event)
    (covered : Covered before) (committed : execute v before (.game ⟨msg, .challenge number⟩) = .ok (after, event)) :
    Covered after ↔ Watched before (.game ⟨msg, .challenge number⟩) := by
  obtain ⟨emitted, outcome, oracle, _⟩ := execute_game v before after _ event committed
  obtain ⟨_, absent, stored, _⟩ :=
    DisputeGame.challenge_cases before.oracle msg number before.game after.game emitted outcome
  have here : after.game.disputes number = DisputeGame.newDispute before.oracle msg number := by
    rw [stored, DisputeGame.store_dispute_here]
  have elsewhere : ∀ other, other ≠ number → (Disputed after other ↔ Disputed before other) := fun other different =>
    disputed_congr before after other (by rw [stored, DisputeGame.store_dispute_elsewhere _ _ _ _ different])
  -- A timestamp of zero leaves the new dispute unseen.
  have opened : Disputed after number ↔ (msg.timestamp.setWidth 128 : BitVec 128) ≠ 0 := by
    rw [disputed_iff, here]
    exact and_iff_left rfl
  have untouched : ∀ other, Disputed before other → other ≠ number := by
    intro other disputed equal
    subst equal
    exact ((disputed_iff before other).mp disputed).1 absent
  have carried : Disputed before before.oracle.latestBlockNumber → Disputed after before.oracle.latestBlockNumber :=
    fun disputed => (elsewhere _ (untouched _ disputed)).mpr disputed
  rw [Covered, oracle]
  constructor
  · intro coveredAfter stamped
    by_cases latest : number = before.oracle.latestBlockNumber
    · exact .inl latest
    · exact .inr ((elsewhere _ (Ne.symm latest)).mp (coveredAfter number (opened.mpr stamped)))
  · intro watched other disputed
    by_cases same : other = number
    · subst same
      rcases watched (opened.mp disputed) with latest | latest
      · rw [← latest]
        exact disputed
      · exact carried latest
    · exact carried (covered other ((elsewhere other same).mp disputed))

theorem resolve_covers (v : Verifiers) (before after : State) (msg : Msg) (number : UInt64)
    (publicValues proofBytes : Bytes) (backend : UInt8) (event : Event) (covered : Covered before)
    (committed : execute v before (.game ⟨msg, .resolve number publicValues proofBytes backend⟩) = .ok (after, event)) :
    Covered after ↔ Watched before (.game ⟨msg, .resolve number publicValues proofBytes backend⟩) := by
  obtain ⟨emitted, outcome, oracle, _⟩ := execute_game v before after _ event committed
  obtain ⟨found, pending, _, _, _, _, stored, _⟩ :=
    DisputeGame.resolve_cases v number publicValues proofBytes backend before.game after.game emitted outcome
  have closed : ¬ Disputed after number := by
    rw [disputed_iff, stored, DisputeGame.store_dispute_here]
    exact fun disputed => nomatch disputed.2
  have elsewhere : ∀ other, other ≠ number → (Disputed after other ↔ Disputed before other) := fun other different =>
    disputed_congr before after other (by rw [stored, DisputeGame.store_dispute_elsewhere _ _ _ _ different])
  have latest : Disputed before before.oracle.latestBlockNumber :=
    covered number ((disputed_iff before number).mpr ⟨found, pending⟩)
  rw [Covered, oracle]
  constructor
  · intro coveredAfter same other different disputed
    have seen := coveredAfter other ((elsewhere other different).mpr disputed)
    rw [← same] at seen
    exact closed seen
  · intro watched other disputed
    have different : other ≠ number := fun same => closed (same ▸ disputed)
    by_cases same : number = before.oracle.latestBlockNumber
    · exact absurd ((elsewhere other different).mp disputed) (watched same other different)
    · exact (elsewhere _ (Ne.symm same)).mpr latest

theorem execute_covers (v : Verifiers) (before after : State) (tx : Tx) (event : Event) (mirror : DisputesMirror before)
    (covered : Covered before) (committed : execute v before tx = .ok (after, event)) :
    Covered after ↔ Watched before tx := by
  cases tx with
  | oracle tx => exact submission_covers v before after tx event mirror covered committed
  | game tx =>
      obtain ⟨msg, call⟩ := tx
      obtain ⟨emitted, outcome, oracle, _⟩ := execute_game v before after _ event committed
      have keyUpdate : after.game.disputes = before.game.disputes → Covered after := by
        intro same number disputed
        rw [oracle]
        exact (disputed_congr before after _ (by rw [same])).mpr
          (covered number ((disputed_congr before after number (by rw [same])).mp disputed))
      cases call with
      | challenge number => exact challenge_covers v before after msg number event covered committed
      | resolve number publicValues proofBytes backend =>
          exact resolve_covers v before after msg number publicValues proofBytes backend event covered committed
      | setSp1ProgramVKey vkey =>
          obtain ⟨_, outcome⟩ := TxMachine.guard_passed outcome
          simp only [Except.ok.injEq, Prod.mk.injEq] at outcome
          exact iff_of_true (keyUpdate (by rw [← outcome.1])) trivial
      | setRisc0ImageId imageId =>
          obtain ⟨_, outcome⟩ := TxMachine.guard_passed outcome
          simp only [Except.ok.injEq, Prod.mk.injEq] at outcome
          exact iff_of_true (keyUpdate (by rw [← outcome.1])) trivial

theorem covered_throughout_iff (v : Verifiers) (d : Deployment) (txs : List Tx) :
    (∀ front back, txs = front ++ back → Covered (run v (deploy d) front)) ↔
      ∀ step ∈ history v (deploy d) txs, Watched step.before step.tx := by
  apply (machine v).throughout_iff Covered DisputesMirror Watched (deploy d) txs
  · intro number disputed
    exact absurd rfl ((disputed_iff (deploy d) number).mp disputed).1
  · intro number found
    exact absurd rfl found
  · exact fun before tx after event held committed => execute_mirrors v before after tx event held committed
  · exact fun before tx after event mirror covered committed =>
      execute_covers v before after tx event mirror covered committed

/-- The monitor asks about the latest proven block only, so each commit has to leave every open dispute there. -/
theorem sentinel_sees_iff (v : Verifiers) (d : Deployment) (txs : List Tx) (connect : State → String → RpcMonitor.Node)
    (monitor : RpcMonitor.RpcChainMonitor) (disputeAddress : Address)
    (configured : monitor.disputeAddress = some disputeAddress)
    (serves : ∀ s, RpcMonitor.Serves (connect s monitor.l1RpcUrl) monitor.oracleAddress disputeAddress s) :
    (∀ s, SeesDispute (RpcMonitor.activeDispute (connect s) monitor) s ↔ Covered s) ∧
      ((∀ front back, txs = front ++ back →
          SeesDispute (RpcMonitor.activeDispute (connect (run v (deploy d) front)) monitor) (run v (deploy d) front)) ↔
        ∀ step ∈ history v (deploy d) txs, Watched step.before step.tx) := by
  have sees : ∀ s, SeesDispute (RpcMonitor.activeDispute (connect s) monitor) s ↔ Covered s := fun s =>
    sees_dispute_iff (connect s) monitor disputeAddress s configured (serves s)
  refine ⟨sees, ?_⟩
  rw [← covered_throughout_iff]
  simp only [sees]

def sampleNode (s : State) : RpcMonitor.Node where
  blockByNumber := fun _ => .ok none
  call := fun address call =>
    match call with
    | .latestBlockNumber => .ok (if address = 0xc1 then RpcMonitor.abiUint64 s.oracle.latestBlockNumber else [])
    | .isDisputed number => .ok (if address = 0xc2 then RpcMonitor.abiBool (DisputeGame.isDisputed s.game number) else [])

def sampleMonitor : RpcMonitor.RpcChainMonitor := RpcMonitor.withDisputeAddress ⟨"l1", "l2", 0xc1, none⟩ 0xc2

theorem sample_node_serves (s : State) : RpcMonitor.Serves (sampleNode s) 0xc1 0xc2 s := ⟨rfl, fun _ => rfl⟩

theorem sentinel_sees_sample :
    (∀ s, SeesDispute (RpcMonitor.activeDispute (fun _ => sampleNode s) sampleMonitor) s ↔ Covered s) ∧
      ((∀ front back, openingTxs 0xcc 42 = front ++ back →
          SeesDispute (RpcMonitor.activeDispute (fun _ => sampleNode (run Oracle.mockVerifiers (deploy sampleDeployment) front))
            sampleMonitor) (run Oracle.mockVerifiers (deploy sampleDeployment) front)) ↔
        ∀ step ∈ history Oracle.mockVerifiers (deploy sampleDeployment) (openingTxs 0xcc 42),
          Watched step.before step.tx) :=
  sentinel_sees_iff Oracle.mockVerifiers sampleDeployment (openingTxs 0xcc 42) (fun s _ => sampleNode s) sampleMonitor 0xc2 rfl
    sample_node_serves

theorem record_latest_raised (s : Oracle.State) (preRoot postRoot : Nat) (number : UInt64)
    (above : s.latestBlockNumber < number) :
    (Oracle.record ⟨0x9, 100⟩ (Oracle.sampleJournal preRoot postRoot number) s).latestBlockNumber = number := by
  have raised := Oracle.record_latest_above ⟨0x9, 100⟩ (Oracle.sampleJournal preRoot postRoot number) s
  rw [Oracle.sample_number] at raised
  exact (raised above).1

theorem newer_block_hides_dispute :
    Disputed (run Oracle.mockVerifiers (deploy sampleDeployment)
        (openingTxs 0xcc 42 ++ [.oracle (Oracle.sampleTx 0xbb 0xce 43)])) 42 ∧
      RpcMonitor.activeDispute (fun _ => sampleNode (run Oracle.mockVerifiers (deploy sampleDeployment)
        (openingTxs 0xcc 42 ++ [.oracle (Oracle.sampleTx 0xbb 0xce 43)]))) sampleMonitor = none := by
  have absent : ∀ number, ((deploy sampleDeployment).game.disputes number).createdAt = 0 := fun _ => rfl
  have free := deploy_unproven sampleDeployment
  have latest : (deploy sampleDeployment).oracle.latestBlockNumber = 0 := rfl
  rw [run_append]
  generalize deploy sampleDeployment = initial at absent free latest ⊢
  rw [opening_run Oracle.mockVerifiers initial 0xcc 42 (word_of_nat_ne_zero 0xcc (by decide) (by decide)) (free 42)
    (absent 42) (fun _ => rfl)]
  have next : Oracle.isBlockProven (openedAfter initial 0xcc 42).oracle 43 = false := by
    rw [Oracle.unproven_iff, openedAfter, Oracle.record_elsewhere _ _ _ _ (by rw [Oracle.sample_number]; decide)]
    exact (Oracle.unproven_iff _ _).mp (free 43)
  have proved := Oracle.sample_commits (openedAfter initial 0xcc 42).oracle 0xbb 0xce 43 next
  rw [run_execute _ _ _ _ _ _ (oracle_commits _ _ _ _ _ proved), run_empty]
  have raised : (openedAfter initial 0xcc 42).oracle.latestBlockNumber < 43 := by
    rw [openedAfter, record_latest_raised _ _ _ _ (by rw [latest]; decide)]
    decide
  have number := record_latest_raised (openedAfter initial 0xcc 42).oracle 0xbb 0xce 43 raised
  have held : (openedAfter initial 0xcc 42).game.disputes 42 = ⟨0xa, 42, wordOfNat 0xcc, 200, false, false⟩ :=
    DisputeGame.store_dispute_here _ _ _
  have empty : (openedAfter initial 0xcc 42).game.disputes 43 = initial.game.disputes 43 :=
    DisputeGame.store_dispute_elsewhere _ _ _ _ (by decide)
  generalize openedAfter initial 0xcc 42 = state at number held empty ⊢
  generalize Oracle.record ⟨0x9, 100⟩ (Oracle.sampleJournal 0xbb 0xce 43) state.oracle = oracle at number ⊢
  refine ⟨(disputed_iff _ 42).mpr (by rw [held]; decide), ?_⟩
  rw [RpcMonitor.active_dispute_served _ sampleMonitor 0xc2 _ rfl (sample_node_serves _), number]
  apply if_neg
  intro disputed
  have exists43 := ((disputed_iff { state with oracle := oracle } 43).mp disputed).1
  rw [empty] at exists43
  exact exists43 (absent 43)

end OpenZk.System
