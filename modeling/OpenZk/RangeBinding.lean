import OpenZk.RangeGuest

set_option autoImplicit false

namespace OpenZk.RangeGuest

open Words

/-- What is assumed of the derivation library. The output roots of the chain derived from a store
are given by rootAt, none where that chain has no block. -/
structure KonaSound (k : Kona) (factory : k.DaSourceFactory) (rootAt : PreimageStore → UInt64 → Option Bytes32) :
    Prop where
  agreed : ∀ store boot safeHead, prologue k store = some (boot, safeHead) →
    rootAt store safeHead.number = some boot.agreedL2OutputRoot
  driver : ∀ store boot safeHead reached, prologue k store = some (boot, safeHead) →
    advance k factory store boot safeHead = some reached →
    reached.head.number ≤ boot.claimedL2BlockNumber ∧ rootAt store reached.head.number = some reached.outputRoot

def NumberBound (rootAt : UInt64 → Option Bytes32) (bytes : Bytes) : Prop :=
  rootAt (l2BlockNumberOf bytes) = some (l2PostRootOf bytes)

def DistinctRoots (rootAt : UInt64 → Option Bytes32) : Prop :=
  ∀ a b root, rootAt a = some root → rootAt b = some root → a = b

def exitHead (k : Kona) (factory : k.DaSourceFactory) (store : PreimageStore) : Option L2Head :=
  (prologue k store).bind fun (boot, safeHead) =>
  if boot.agreedL2OutputRoot = boot.claimedL2OutputRoot then some safeHead
  else (advance k factory store boot safeHead).map Advance.head

theorem exit_head_of_run (k : Kona) (factory : k.DaSourceFactory) (store : PreimageStore) (finished : PipelineRun)
    (completed : runPipeline k factory store = some finished) : exitHead k factory store = some finished.head := by
  cases run_pipeline_cases k factory store finished completed with
  | extended boot safeHead started same shape =>
      rw [exitHead, started, Option.bind_some, shape]
      exact if_pos same
  | derived boot safeHead reached started different advanced claimed shape =>
      rw [exitHead, started, Option.bind_some, shape]
      dsimp only
      rw [if_neg different, advanced, Option.map_some]

theorem post_root_of_head (k : Kona) (factory : k.DaSourceFactory) (rootAt : PreimageStore → UInt64 → Option Bytes32)
    (sound : KonaSound k factory rootAt) (store : PreimageStore) (finished : PipelineRun)
    (completed : runPipeline k factory store = some finished) :
    rootAt store finished.head.number = some finished.output.l2PostRoot ∧
      finished.head.number ≤ finished.output.l2BlockNumber := by
  cases run_pipeline_cases k factory store finished completed with
  | extended boot safeHead started same shape =>
      have agreed := sound.agreed store boot safeHead started
      rw [same] at agreed
      rw [shape]
      exact ⟨agreed, (prologue_cases k store boot safeHead started).2.2.2⟩
  | derived boot safeHead reached started different advanced claimed shape =>
      obtain ⟨bound, root⟩ := sound.driver store boot safeHead reached started advanced
      rw [shape]
      exact ⟨root, bound⟩

theorem number_bound_of_head (k : Kona) (factory : k.DaSourceFactory)
    (rootAt : PreimageStore → UInt64 → Option Bytes32) (sound : KonaSound k factory rootAt) (store : PreimageStore)
    (finished : PipelineRun) (completed : runPipeline k factory store = some finished) :
    NumberBound (rootAt store) (toAbiBytes (journal finished.output)) ↔
      rootAt store finished.output.l2BlockNumber = rootAt store finished.head.number := by
  rw [NumberBound, l2_block_number_of_abi_bytes, l2_post_root_of_abi_bytes,
    (post_root_of_head k factory rootAt sound store finished completed).1]
  rfl

/-- Number and root belong together exactly when the head that the exit stands on has the claimed
block's root. The guest checks an inequality only. -/
theorem journal_number_bound_iff (k : Kona) (factory : k.DaSourceFactory)
    (rootAt : PreimageStore → UInt64 → Option Bytes32) (sound : KonaSound k factory rootAt) (store : PreimageStore)
    (bytes : Bytes) (committed : run k factory store = some bytes) :
    ∃ head, exitHead k factory store = some head ∧ head.number ≤ l2BlockNumberOf bytes ∧
      (NumberBound (rootAt store) bytes ↔ rootAt store (l2BlockNumberOf bytes) = rootAt store head.number) ∧
      (DistinctRoots (rootAt store) → (NumberBound (rootAt store) bytes ↔ head.number = l2BlockNumberOf bytes)) := by
  obtain ⟨finished, completed, rfl⟩ := run_cases k factory store bytes committed
  obtain ⟨root, bound⟩ := post_root_of_head k factory rootAt sound store finished completed
  have bound_iff := number_bound_of_head k factory rootAt sound store finished completed
  have number : l2BlockNumberOf (toAbiBytes (journal finished.output)) = finished.output.l2BlockNumber :=
    l2_block_number_of_abi_bytes _
  refine ⟨finished.head, exit_head_of_run k factory store finished completed, by rw [number]; exact bound, ?_, ?_⟩
  · rw [number]
    exact bound_iff
  · intro distinct
    rw [bound_iff, number]
    constructor
    · intro same
      exact distinct finished.head.number finished.output.l2BlockNumber _ root (same.trans root)
    · intro same
      rw [same]

def chainRoot (number : UInt64) : Bytes32 := wordOfNat (number.toNat + 1)

def sampleRootAt (store : PreimageStore) (number : UInt64) : Option Bytes32 :=
  (prologue sampleKona store).map fun started =>
    if number = started.2.number then started.1.agreedL2OutputRoot else chainRoot number

theorem sample_kona_sound : KonaSound sampleKona sampleFactory sampleRootAt := by
  refine ⟨?_, ?_⟩
  · intro store boot safeHead started
    rw [sampleRootAt, started, Option.map_some, if_pos rfl]
  · intro store boot safeHead reached _ advanced
    cases advanced

def bootData (l1Head agreed claimed : Bytes32) (safeHead claimedNumber : UInt64) : PreimageMap :=
  Finmap.insert (PreimageKey.new agreed .keccak256).toBytes (List.replicate 96 0 ++ (wordOfNat safeHead.toNat).data)
    (Finmap.insert (PreimageKey.newLocal 1).toBytes l1Head.data
      (Finmap.insert (PreimageKey.newLocal 2).toBytes agreed.data
        (Finmap.insert (PreimageKey.newLocal 3).toBytes claimed.data
          (Finmap.insert (PreimageKey.newLocal 4).toBytes (toBigEndian 8 claimedNumber.toNat) ∅))))

theorem boot_answers (l1Head agreed claimed : Bytes32) (safeHead claimedNumber : UInt64) :
    Answers (bootData l1Head agreed claimed safeHead claimedNumber) l1Head agreed claimed
      (wordOfNat safeHead.toNat) claimedNumber := by
  have other : ∀ index, (PreimageKey.newLocal index).toBytes ≠ (PreimageKey.new agreed .keccak256).toBytes :=
    fun index => PreimageStore.key_types_differ _ _ PreimageKeyType.noConfusion
  unfold bootData
  refine ⟨?_, ?_, ?_, ?_, Finmap.lookup_insert _⟩
  · rw [Finmap.lookup_insert_of_ne _ (other 1), Finmap.lookup_insert]
  · rw [Finmap.lookup_insert_of_ne _ (other 2), Finmap.lookup_insert_of_ne _ (by decide), Finmap.lookup_insert]
  · rw [Finmap.lookup_insert_of_ne _ (other 3), Finmap.lookup_insert_of_ne _ (by decide),
      Finmap.lookup_insert_of_ne _ (by decide), Finmap.lookup_insert]
  · rw [Finmap.lookup_insert_of_ne _ (other 4), Finmap.lookup_insert_of_ne _ (by decide),
      Finmap.lookup_insert_of_ne _ (by decide), Finmap.lookup_insert_of_ne _ (by decide), Finmap.lookup_insert]

def extensionData (claimedNumber : UInt64) : PreimageMap :=
  bootData (wordOfNat 0xaa) (wordOfNat 101) (wordOfNat 101) 100 claimedNumber

def extensionJournal (claimedNumber : UInt64) : StateTransitionJournal :=
  ⟨wordOfNat 0xaa, wordOfNat 101, wordOfNat 101, claimedNumber, zeroWord, zeroWord⟩

theorem extension_answers (claimedNumber : UInt64) :
    Answers (extensionData claimedNumber) (wordOfNat 0xaa) (wordOfNat 101) (wordOfNat 101)
      (wordOfNat (100 : UInt64).toNat) claimedNumber :=
  boot_answers (wordOfNat 0xaa) (wordOfNat 101) (wordOfNat 101) 100 claimedNumber

theorem extension_commits (claimedNumber : UInt64) (bound : 100 ≤ claimedNumber) :
    run sampleKona sampleFactory ⟨extensionData claimedNumber⟩ = some (toAbiBytes (extensionJournal claimedNumber)) := by
  rw [run, sample_extension _ (wordOfNat 0xaa) (wordOfNat 101) 100 claimedNumber (extension_answers claimedNumber) bound]
  rfl

theorem sample_root_ahead (store : PreimageStore) (boot : sampleKona.Boot) (safeHead : L2Head) (number : UInt64)
    (started : prologue sampleKona store = some (boot, safeHead)) (ahead : safeHead.number < number) :
    sampleRootAt store number = some (chainRoot number) := by
  rw [sampleRootAt, started, Option.map_some]
  exact congrArg some (if_neg (UInt64.ne_of_lt ahead).symm)

def derivedBlock (claimedNumber : UInt64) : UInt64 := if claimedNumber ≤ 110 then claimedNumber else 110

theorem derived_block_le (claimedNumber : UInt64) : derivedBlock claimedNumber ≤ claimedNumber := by
  rw [derivedBlock]
  split
  · exact UInt64.le_refl claimedNumber
  · rename_i beyond
    exact UInt64.le_of_lt (UInt64.not_le.mp beyond)

def derivedAdvance (cursor claimedNumber : UInt64) : Advance where
  head := ⟨wordOfNat (derivedBlock claimedNumber).toNat, derivedBlock claimedNumber⟩
  outputRoot := chainRoot (derivedBlock claimedNumber)
  executed := List.range' (cursor.toNat + 1) ((derivedBlock claimedNumber).toNat - cursor.toNat)

def derive (cursor claimedNumber : UInt64) : Option Advance :=
  if cursor < derivedBlock claimedNumber then some (derivedAdvance cursor claimedNumber) else none

/-- The sample library with a driver that advances, up to block 110 where its data ends. -/
def derivingKona : Kona where
  RollupConfig := Unit
  L1Config := Unit
  Cursor := UInt64
  DaSource := Unit
  Pipeline := Unit
  load := loadLocal
  headerByHash := fun _ _ hash => some (wordToUInt64 hash)
  newCursor := fun _ _ _ safeHead => some safeHead.number
  newPipeline := fun _ _ _ _ _ _ => some ()
  advanceToTarget := fun _ _ cursor _ target => target.bind (derive cursor)

def derivingFactory : derivingKona.DaSourceFactory := fun _ _ _ => ()

theorem deriving_kona_sound : KonaSound derivingKona derivingFactory sampleRootAt := by
  refine ⟨?_, ?_⟩
  · exact sample_kona_sound.agreed
  · intro store boot safeHead reached started advanced
    replace advanced : derive safeHead.number boot.claimedL2BlockNumber = some reached := advanced
    rw [derive] at advanced
    split at advanced
    · rename_i ahead
      obtain rfl := Option.some.inj advanced
      exact ⟨derived_block_le boot.claimedL2BlockNumber, sample_root_ahead store boot safeHead _ started ahead⟩
    · cases advanced

def derivationData (l1Head : Nat) (safeHead claimedNumber : UInt64) : PreimageMap :=
  bootData (wordOfNat l1Head) (chainRoot safeHead) (chainRoot (derivedBlock claimedNumber)) safeHead claimedNumber

def derivationRun (l1Head : Nat) (safeHead claimedNumber : UInt64) : PipelineRun where
  output := ⟨wordOfNat l1Head, chainRoot safeHead, chainRoot (derivedBlock claimedNumber), claimedNumber, zeroWord⟩
  head := (derivedAdvance safeHead claimedNumber).head
  executed := (derivedAdvance safeHead claimedNumber).executed

def derivationJournal (l1Head : Nat) (safeHead claimedNumber : UInt64) : StateTransitionJournal :=
  journal (derivationRun l1Head safeHead claimedNumber).output

theorem chain_root_inj (a b : UInt64) (same : chainRoot a = chainRoot b) : a = b := by
  have bound : ∀ number : UInt64, number.toNat + 1 < 256 ^ 32 := fun number => by have := number.toNat_lt; omega
  have numbers := word_of_nat_inj _ _ (bound a) (bound b) same
  exact UInt64.toNat_inj.mp (Nat.succ_inj.mp numbers)

def derivationBoot (l1Head : Nat) (safeHead claimedNumber : UInt64) : derivingKona.Boot :=
  ⟨wordOfNat l1Head, chainRoot safeHead, chainRoot (derivedBlock claimedNumber), claimedNumber, (), ()⟩

theorem derivation_started (l1Head : Nat) (safeHead claimedNumber : UInt64)
    (ahead : safeHead < derivedBlock claimedNumber) :
    prologue derivingKona ⟨derivationData l1Head safeHead claimedNumber⟩ =
      some (derivationBoot l1Head safeHead claimedNumber, ⟨wordOfNat safeHead.toNat, safeHead⟩) :=
  sample_prologue _ _ _ _ safeHead claimedNumber
    (boot_answers (wordOfNat l1Head) (chainRoot safeHead) (chainRoot (derivedBlock claimedNumber)) safeHead claimedNumber)
    (UInt64.le_trans (UInt64.le_of_lt ahead) (derived_block_le claimedNumber))

theorem derivation_run (l1Head : Nat) (safeHead claimedNumber : UInt64)
    (ahead : safeHead < derivedBlock claimedNumber) :
    runPipeline derivingKona derivingFactory ⟨derivationData l1Head safeHead claimedNumber⟩ =
      some (derivationRun l1Head safeHead claimedNumber) := by
  have started := derivation_started l1Head safeHead claimedNumber ahead
  have different : chainRoot safeHead ≠ chainRoot (derivedBlock claimedNumber) :=
    fun same => UInt64.ne_of_lt ahead (chain_root_inj _ _ same)
  have derived : derive safeHead claimedNumber = some (derivedAdvance safeHead claimedNumber) := if_pos ahead
  exact run_pipeline_derived derivingKona derivingFactory _ (derivationBoot l1Head safeHead claimedNumber)
    ⟨wordOfNat safeHead.toNat, safeHead⟩ (derivedAdvance safeHead claimedNumber) started different derived rfl

theorem derivation_commits (l1Head : Nat) (safeHead claimedNumber : UInt64)
    (ahead : safeHead < derivedBlock claimedNumber) :
    run derivingKona derivingFactory ⟨derivationData l1Head safeHead claimedNumber⟩ =
      some (toAbiBytes (derivationJournal l1Head safeHead claimedNumber)) := by
  rw [run, derivation_run l1Head safeHead claimedNumber ahead]
  rfl

theorem derivation_exit (l1Head : Nat) (safeHead claimedNumber : UInt64)
    (ahead : safeHead < derivedBlock claimedNumber) :
    exitHead derivingKona derivingFactory ⟨derivationData l1Head safeHead claimedNumber⟩ =
      some (derivedAdvance safeHead claimedNumber).head :=
  exit_head_of_run derivingKona derivingFactory ⟨derivationData l1Head safeHead claimedNumber⟩
    (derivationRun l1Head safeHead claimedNumber) (derivation_run l1Head safeHead claimedNumber ahead)

theorem derivation_root_at (l1Head : Nat) (safeHead claimedNumber number : UInt64)
    (ahead : safeHead < derivedBlock claimedNumber) (beyond : safeHead < number) :
    sampleRootAt ⟨derivationData l1Head safeHead claimedNumber⟩ number = some (chainRoot number) :=
  sample_root_ahead _ _ _ number (derivation_started l1Head safeHead claimedNumber ahead) beyond

theorem journal_number_bound_sample :
    (∃ head, exitHead sampleKona sampleFactory ⟨extensionData 100⟩ = some head ∧
      head.number ≤ l2BlockNumberOf (toAbiBytes (extensionJournal 100)) ∧
      (NumberBound (sampleRootAt ⟨extensionData 100⟩) (toAbiBytes (extensionJournal 100)) ↔
        sampleRootAt ⟨extensionData 100⟩ (l2BlockNumberOf (toAbiBytes (extensionJournal 100))) =
          sampleRootAt ⟨extensionData 100⟩ head.number) ∧
      (DistinctRoots (sampleRootAt ⟨extensionData 100⟩) →
        (NumberBound (sampleRootAt ⟨extensionData 100⟩) (toAbiBytes (extensionJournal 100)) ↔
          head.number = l2BlockNumberOf (toAbiBytes (extensionJournal 100))))) ∧
      NumberBound (sampleRootAt ⟨derivationData 0xaa 100 103⟩) (toAbiBytes (derivationJournal 0xaa 100 103)) ∧
      ¬ NumberBound (sampleRootAt ⟨derivationData 0xaa 100 120⟩) (toAbiBytes (derivationJournal 0xaa 100 120)) := by
  refine ⟨?_, ?_, ?_⟩
  · exact journal_number_bound_iff sampleKona sampleFactory sampleRootAt sample_kona_sound ⟨extensionData 100⟩ _
      (extension_commits 100 (by decide))
  · -- The driver reaches the claimed block.
    have ahead : 100 < derivedBlock 103 := by decide
    obtain ⟨head, stands, _, bound, _⟩ := journal_number_bound_iff derivingKona derivingFactory sampleRootAt
      deriving_kona_sound ⟨derivationData 0xaa 100 103⟩ _ (derivation_commits 0xaa 100 103 ahead)
    rw [derivation_exit 0xaa 100 103 ahead] at stands
    obtain rfl := Option.some.inj stands
    rw [bound, derivationJournal, l2_block_number_of_abi_bytes]
    rfl
  · -- The driver runs out of data at block 110.
    have ahead : 100 < derivedBlock 120 := by decide
    obtain ⟨head, stands, _, bound, _⟩ := journal_number_bound_iff derivingKona derivingFactory sampleRootAt
      deriving_kona_sound ⟨derivationData 0xaa 100 120⟩ _ (derivation_commits 0xaa 100 120 ahead)
    rw [derivation_exit 0xaa 100 120 ahead] at stands
    obtain rfl := Option.some.inj stands
    rw [bound, derivationJournal, l2_block_number_of_abi_bytes]
    intro same
    have claimed := derivation_root_at 0xaa 100 120 120 ahead (by decide)
    have stood := derivation_root_at 0xaa 100 120 110 ahead (by decide)
    cases chain_root_inj 120 110 (Option.some.inj (claimed.symm.trans (same.trans stood)))

theorem extension_publishes_other_number :
    KonaSound sampleKona sampleFactory sampleRootAt ∧
      run sampleKona sampleFactory ⟨extensionData 200⟩ = some (toAbiBytes (extensionJournal 200)) ∧
      ¬ NumberBound (sampleRootAt ⟨extensionData 200⟩) (toAbiBytes (extensionJournal 200)) := by
  refine ⟨sample_kona_sound, extension_commits 200 (by decide), ?_⟩
  intro bound
  rw [NumberBound, l2_block_number_of_abi_bytes, l2_post_root_of_abi_bytes, sampleRootAt,
    sample_prologue _ _ _ _ 100 200 (extension_answers 200) (by decide), Option.map_some,
    show (extensionJournal 200).l2BlockNumber = 200 from rfl, if_neg (by decide)] at bound
  exact absurd (word_of_nat_inj 201 101 (by decide) (by decide) (Option.some.inj bound)) (by decide)

end OpenZk.RangeGuest
