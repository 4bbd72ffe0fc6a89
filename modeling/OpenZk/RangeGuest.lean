import OpenZk.Journal
import OpenZk.PreimageStore

set_option autoImplicit false

namespace OpenZk

open Words

structure L2Head where
  hash : Bytes32
  number : UInt64
deriving DecidableEq

structure KonaBootInfo (RollupConfig L1Config : Type) where
  l1Head : Bytes32
  agreedL2OutputRoot : Bytes32
  claimedL2OutputRoot : Bytes32
  claimedL2BlockNumber : UInt64
  rollupConfig : RollupConfig
  l1Config : L1Config

structure Advance where
  head : L2Head
  outputRoot : Bytes32
  -- An observation: no code reads it.
  executed : List Nat
deriving DecidableEq

/-- The derivation library, as the guest calls it. The caching oracle in front of the store answers
as the store does, and hints do nothing. -/
structure Kona where
  RollupConfig : Type
  L1Config : Type
  Cursor : Type
  DaSource : Type
  Pipeline : Type
  load : PreimageStore → Option (KonaBootInfo RollupConfig L1Config)
  headerByHash : PreimageStore → RollupConfig → Bytes32 → Option UInt64
  newCursor : PreimageStore → RollupConfig → Bytes32 → L2Head → Option Cursor
  newPipeline : PreimageStore → RollupConfig → L1Config → Bytes32 → Cursor → DaSource → Option Pipeline
  advanceToTarget : PreimageStore → RollupConfig → Cursor → Pipeline → Option UInt64 → Option Advance

namespace Kona

variable (k : Kona)

abbrev Boot := KonaBootInfo k.RollupConfig k.L1Config

abbrev DaSourceFactory := PreimageStore → Bytes32 → k.RollupConfig → k.DaSource

end Kona

structure PipelineOutput where
  l1Head : Bytes32
  l2PreRoot : Bytes32
  l2PostRoot : Bytes32
  l2BlockNumber : UInt64
  configHash : Bytes32
deriving DecidableEq

structure PipelineRun where
  output : PipelineOutput
  head : L2Head
  executed : List Nat
deriving DecidableEq

namespace RangeGuest

def fetchSafeHeadHash (store : PreimageStore) (agreedL2OutputRoot : Bytes32) : Option Bytes32 :=
  match store.getExact (PreimageKey.new agreedL2OutputRoot .keccak256) (List.replicate 128 0) with
  | .ok outputPreimage => some (pack (slice outputPreimage 96 128))
  | .error _ => none

def prologue (k : Kona) (store : PreimageStore) : Option (k.Boot × L2Head) :=
  (k.load store).bind fun boot =>
  (fetchSafeHeadHash store boot.agreedL2OutputRoot).bind fun safeHeadHash =>
  (k.headerByHash store boot.rollupConfig safeHeadHash).bind fun number =>
  -- A failed assertion aborts the guest, as a failed expect does: nothing is committed.
  if boot.claimedL2BlockNumber ≥ number then some (boot, ⟨safeHeadHash, number⟩) else none

def traceExtension (k : Kona) (boot : k.Boot) (safeHead : L2Head) : PipelineRun where
  output := ⟨boot.l1Head, boot.agreedL2OutputRoot, boot.claimedL2OutputRoot, boot.claimedL2BlockNumber, zeroWord⟩
  head := safeHead
  executed := []

def advance (k : Kona) (factory : k.DaSourceFactory) (store : PreimageStore) (boot : k.Boot) (safeHead : L2Head) :
    Option Advance :=
  (k.newCursor store boot.rollupConfig boot.l1Head safeHead).bind fun cursor =>
  (k.newPipeline store boot.rollupConfig boot.l1Config boot.l1Head cursor
    (factory store boot.l1Head boot.rollupConfig)).bind fun pipeline =>
  k.advanceToTarget store boot.rollupConfig cursor pipeline (some boot.claimedL2BlockNumber)

def epilogue (k : Kona) (boot : k.Boot) (reached : Advance) : Option PipelineRun :=
  if reached.outputRoot = boot.claimedL2OutputRoot then
    some {
      output := ⟨boot.l1Head, boot.agreedL2OutputRoot, reached.outputRoot, boot.claimedL2BlockNumber, zeroWord⟩
      head := reached.head
      executed := reached.executed }
  else none

def runPipeline (k : Kona) (factory : k.DaSourceFactory) (store : PreimageStore) : Option PipelineRun :=
  (prologue k store).bind fun (boot, safeHead) =>
  if boot.agreedL2OutputRoot = boot.claimedL2OutputRoot then some (traceExtension k boot safeHead)
  else (advance k factory store boot safeHead).bind (epilogue k boot)

def journal (output : PipelineOutput) : StateTransitionJournal where
  l1Head := output.l1Head
  l2PreRoot := output.l2PreRoot
  l2PostRoot := output.l2PostRoot
  l2BlockNumber := output.l2BlockNumber
  rollupConfigHash := output.configHash
  programId := zeroWord

def run (k : Kona) (factory : k.DaSourceFactory) (store : PreimageStore) : Option Bytes :=
  (runPipeline k factory store).map fun finished => toAbiBytes (journal finished.output)

inductive RunKind (k : Kona) (factory : k.DaSourceFactory) (store : PreimageStore) (finished : PipelineRun) : Prop where
  | extended (boot : k.Boot) (safeHead : L2Head) (started : prologue k store = some (boot, safeHead))
      (same : boot.agreedL2OutputRoot = boot.claimedL2OutputRoot) (shape : finished = traceExtension k boot safeHead)
  | derived (boot : k.Boot) (safeHead : L2Head) (reached : Advance) (started : prologue k store = some (boot, safeHead))
      (different : boot.agreedL2OutputRoot ≠ boot.claimedL2OutputRoot)
      (advanced : advance k factory store boot safeHead = some reached)
      (claimed : reached.outputRoot = boot.claimedL2OutputRoot)
      (shape : finished = ⟨⟨boot.l1Head, boot.agreedL2OutputRoot, reached.outputRoot, boot.claimedL2BlockNumber,
        zeroWord⟩, reached.head, reached.executed⟩)

theorem fetch_safe_head_hash_ok (store : PreimageStore) (agreedL2OutputRoot hash : Bytes32)
    (fetched : fetchSafeHeadHash store agreedL2OutputRoot = some hash) :
    ∃ preimage, store.data.lookup (PreimageKey.new agreedL2OutputRoot .keccak256).toBytes = some preimage ∧
      preimage.length = 128 ∧ hash = pack (slice preimage 96 128) := by
  rw [fetchSafeHeadHash] at fetched
  split at fetched
  · rename_i preimage read
    obtain ⟨got, length⟩ := (PreimageStore.get_exact_ok_iff store _ _ preimage).mp read
    refine ⟨preimage, (PreimageStore.get_ok_iff store _ preimage).mp got, ?_, (Option.some.inj fetched).symm⟩
    rw [← length, List.length_replicate]
  · cases fetched

theorem prologue_cases (k : Kona) (store : PreimageStore) (boot : k.Boot) (safeHead : L2Head)
    (started : prologue k store = some (boot, safeHead)) :
    k.load store = some boot ∧ fetchSafeHeadHash store boot.agreedL2OutputRoot = some safeHead.hash ∧
      k.headerByHash store boot.rollupConfig safeHead.hash = some safeHead.number ∧
      safeHead.number ≤ boot.claimedL2BlockNumber := by
  obtain ⟨loaded, load, started⟩ := Option.bind_eq_some_iff.mp started
  obtain ⟨safeHeadHash, fetched, started⟩ := Option.bind_eq_some_iff.mp started
  obtain ⟨number, header, started⟩ := Option.bind_eq_some_iff.mp started
  split at started
  · rename_i bound
    simp only [Option.some.injEq, Prod.mk.injEq] at started
    obtain ⟨rfl, rfl⟩ := started
    exact ⟨load, fetched, header, bound⟩
  · cases started

theorem run_pipeline_cases (k : Kona) (factory : k.DaSourceFactory) (store : PreimageStore) (finished : PipelineRun)
    (completed : runPipeline k factory store = some finished) : RunKind k factory store finished := by
  obtain ⟨⟨boot, safeHead⟩, started, completed⟩ := Option.bind_eq_some_iff.mp completed
  dsimp only at completed
  split at completed
  · rename_i same
    exact .extended boot safeHead started same (Option.some.inj completed).symm
  · rename_i different
    obtain ⟨reached, advanced, completed⟩ := Option.bind_eq_some_iff.mp completed
    rw [epilogue] at completed
    split at completed
    · rename_i claimed
      exact .derived boot safeHead reached started different advanced claimed (Option.some.inj completed).symm
    · cases completed

theorem run_pipeline_derived (k : Kona) (factory : k.DaSourceFactory) (store : PreimageStore) (boot : k.Boot)
    (safeHead : L2Head) (reached : Advance) (started : prologue k store = some (boot, safeHead))
    (different : boot.agreedL2OutputRoot ≠ boot.claimedL2OutputRoot)
    (advanced : advance k factory store boot safeHead = some reached)
    (claimed : reached.outputRoot = boot.claimedL2OutputRoot) :
    runPipeline k factory store = some ⟨⟨boot.l1Head, boot.agreedL2OutputRoot, reached.outputRoot,
      boot.claimedL2BlockNumber, zeroWord⟩, reached.head, reached.executed⟩ := by
  rw [runPipeline, started, Option.bind_some]
  dsimp only
  rw [if_neg different, advanced, Option.bind_some]
  exact if_pos claimed

theorem run_cases (k : Kona) (factory : k.DaSourceFactory) (store : PreimageStore) (bytes : Bytes)
    (committed : run k factory store = some bytes) :
    ∃ finished, runPipeline k factory store = some finished ∧ bytes = toAbiBytes (journal finished.output) := by
  obtain ⟨finished, completed, shape⟩ := Option.map_eq_some_iff.mp committed
  exact ⟨finished, completed, shape.symm⟩

def readLocal (store : PreimageStore) (index : UInt64) : Option Bytes :=
  (store.get (PreimageKey.newLocal index)).toOption

def loadLocal (store : PreimageStore) : Option (KonaBootInfo Unit Unit) :=
  (readLocal store 1).bind fun l1Head =>
  (readLocal store 2).bind fun agreed =>
  (readLocal store 3).bind fun claimed =>
  (readLocal store 4).map fun number =>
  ⟨pack l1Head, pack agreed, pack claimed, UInt64.ofNat (bigEndian number), (), ()⟩

def sampleKona : Kona where
  RollupConfig := Unit
  L1Config := Unit
  Cursor := Unit
  DaSource := Unit
  Pipeline := Unit
  load := loadLocal
  headerByHash := fun _ _ hash => some (wordToUInt64 hash)
  newCursor := fun _ _ _ _ => some ()
  newPipeline := fun _ _ _ _ _ _ => some ()
  advanceToTarget := fun _ _ _ _ _ => none

def sampleFactory : sampleKona.DaSourceFactory := fun _ _ _ => ()

def sampleBoot (l1Head agreed claimed : Bytes32) (number : UInt64) : sampleKona.Boot :=
  ⟨l1Head, agreed, claimed, number, (), ()⟩

structure Answers (data : PreimageMap) (l1Head agreed claimed safeHeadHash : Bytes32) (number : UInt64) : Prop where
  l1HeadKey : data.lookup (PreimageKey.newLocal 1).toBytes = some l1Head.data
  agreedKey : data.lookup (PreimageKey.newLocal 2).toBytes = some agreed.data
  claimedKey : data.lookup (PreimageKey.newLocal 3).toBytes = some claimed.data
  numberKey : data.lookup (PreimageKey.newLocal 4).toBytes = some (toBigEndian 8 number.toNat)
  outputPreimage : data.lookup (PreimageKey.new agreed .keccak256).toBytes = some (List.replicate 96 0 ++ safeHeadHash.data)

theorem read_local (data : PreimageMap) (index : UInt64) (value : Bytes)
    (held : data.lookup (PreimageKey.newLocal index).toBytes = some value) : readLocal ⟨data⟩ index = some value := by
  rw [readLocal, (PreimageStore.get_ok_iff ⟨data⟩ _ value).mpr held]
  rfl

theorem sample_load (data : PreimageMap) (l1Head agreed claimed safeHeadHash : Bytes32) (number : UInt64)
    (answers : Answers data l1Head agreed claimed safeHeadHash number) :
    loadLocal ⟨data⟩ = some (sampleBoot l1Head agreed claimed number) := by
  have decoded : UInt64.ofNat (bigEndian (toBigEndian 8 number.toNat)) = number := by
    have bound : number.toNat < 256 ^ 8 := number.toNat_lt
    rw [big_endian_to_big_endian, Nat.mod_eq_of_lt bound]
    exact UInt64.ofNat_toNat
  simp only [loadLocal, read_local data 1 _ answers.l1HeadKey, read_local data 2 _ answers.agreedKey,
    read_local data 3 _ answers.claimedKey, read_local data 4 _ answers.numberKey, Option.bind_some, Option.map_some,
    pack_word, decoded]
  rfl

theorem sample_fetch (data : PreimageMap) (l1Head agreed claimed safeHeadHash : Bytes32) (number : UInt64)
    (answers : Answers data l1Head agreed claimed safeHeadHash number) :
    fetchSafeHeadHash ⟨data⟩ agreed = some safeHeadHash := by
  have read : (PreimageStore.mk data).getExact (PreimageKey.new agreed .keccak256) (List.replicate 128 0) =
      .ok (List.replicate 96 0 ++ (safeHeadHash.data ++ [])) := by
    rw [PreimageStore.get_exact_ok_iff, PreimageStore.get_ok_iff, List.append_nil]
    exact ⟨answers.outputPreimage, by simp [safeHeadHash.size]⟩
  rw [fetchSafeHeadHash, read]
  dsimp only
  rw [abi_bytes_slot _ _ _ 96 128 (by simp) rfl]

theorem sample_prologue (data : PreimageMap) (l1Head agreed claimed : Bytes32) (safeHead number : UInt64)
    (answers : Answers data l1Head agreed claimed (wordOfNat safeHead.toNat) number) (bound : safeHead ≤ number) :
    prologue sampleKona ⟨data⟩ =
      some (sampleBoot l1Head agreed claimed number, ⟨wordOfNat safeHead.toNat, safeHead⟩) := by
  have loaded := sample_load data l1Head agreed claimed _ number answers
  have fetched := sample_fetch data l1Head agreed claimed _ number answers
  have opened : sampleKona.load ⟨data⟩ = some (sampleBoot l1Head agreed claimed number) := loaded
  have header : ∀ store config, sampleKona.headerByHash store config (wordOfNat safeHead.toNat) = some safeHead :=
    fun _ _ => congrArg some (word_uint64 safeHead)
  rw [prologue, opened, Option.bind_some, show (sampleBoot l1Head agreed claimed number).agreedL2OutputRoot = agreed from rfl,
    fetched, Option.bind_some, header, Option.bind_some]
  exact if_pos bound

theorem sample_extension (data : PreimageMap) (l1Head agreed : Bytes32) (safeHead number : UInt64)
    (answers : Answers data l1Head agreed agreed (wordOfNat safeHead.toNat) number) (bound : safeHead ≤ number) :
    runPipeline sampleKona sampleFactory ⟨data⟩ =
      some ⟨⟨l1Head, agreed, agreed, number, zeroWord⟩, ⟨wordOfNat safeHead.toNat, safeHead⟩, []⟩ := by
  rw [runPipeline, sample_prologue data l1Head agreed agreed safeHead number answers bound, Option.bind_some]
  exact if_pos rfl

end RangeGuest

end OpenZk
