import OpenZk.Journal
import OpenZk.Planner
import OpenZk.PreimageStore

set_option autoImplicit false

namespace OpenZk

open Words

structure BootInfo where
  l1Head : Bytes32
  l2PreRoot : Bytes32
  l2Claim : Bytes32
  l2BlockNumber : UInt64
  rollupConfigHash : Bytes32
deriving DecidableEq

def BootInfo.toAbiBytes (boot : BootInfo) : Bytes :=
  boot.l1Head.data ++ (boot.l2PreRoot.data ++ (boot.l2Claim.data ++
    ((wordOfNat boot.l2BlockNumber.toNat).data ++ boot.rollupConfigHash.data)))

def BootInfo.fromAbiBytes (data : Bytes) : Option BootInfo :=
  if data.length < 160 then none
  else some {
    l1Head := pack (slice data 0 32)
    l2PreRoot := pack (slice data 32 64)
    l2Claim := pack (slice data 64 96)
    l2BlockNumber := wordToUInt64 (pack (slice data 96 128))
    rollupConfigHash := pack (slice data 128 160) }

structure RawWitness where
  bootInfo : Bytes
  oracleData : Bytes
  blobData : Bytes
deriving DecidableEq

structure SingleChainHost where
  l1Head : Bytes32
  agreedL2HeadHash : Bytes32
  agreedL2OutputRoot : Bytes32
  claimedL2OutputRoot : Bytes32
  claimedL2BlockNumber : UInt64
  l1NodeAddress : Option String
  l2NodeAddress : Option String
  l1BeaconAddress : Option String
  native : Bool
  server : Bool
  l2ChainId : Option UInt64
  rollupConfigPath : Option String
  l1ConfigPath : Option String
  dataDir : Option String
deriving DecidableEq

structure RpcWitnessProvider where
  l1RpcUrl : String
  l2RpcUrl : String
  l1BeaconUrl : String
  opNodeUrl : Option String
  rollupConfigPath : Option String
  l2ChainId : Option UInt64
deriving DecidableEq

inductive RpcWitnessError where
  | connection (message : String)
  | fetch (message : String)
  | serialization (message : String)
  | konaHost (message : String)
  | konaClient (message : String)
deriving DecidableEq

structure L2Block where
  hash : Bytes32
  stateRoot : Bytes32
  withdrawalsRoot : Option Bytes32
deriving DecidableEq

structure Env where
  parseUrl : String → Except String Unit
  blockByNumber : String → UInt64 → Except String (Option L2Block)
  -- None when the call fails or the answer holds no root.
  outputAtBlock : String → UInt64 → Option Bytes32
  ensureRollupConfig : Except RpcWitnessError String
  computeRollupConfigHash : String → Except RpcWitnessError Bytes32
  l1ChainId : String → Except RpcWitnessError UInt64
  ensureL1Config : UInt64 → Except RpcWitnessError String
  collectWitness : SingleChainHost → Except RpcWitnessError PreimageMap
  localInputs : SingleChainHost → Bytes32 → Option Bytes
  serializePreimages : PreimageMap → Bytes
  keccak256 : Bytes → Bytes32

theorem boot_info_round_trip (boot : BootInfo) : BootInfo.fromAbiBytes boot.toAbiBytes = some boot := by
  have long : ¬ boot.toAbiBytes.length < 160 := by simp [BootInfo.toAbiBytes, Bytes32.size]
  have l1Head := abi_bytes_slot [] (boot.l2PreRoot.data ++ (boot.l2Claim.data ++
    ((wordOfNat boot.l2BlockNumber.toNat).data ++ boot.rollupConfigHash.data))) boot.l1Head 0 32 rfl rfl
  have preRoot := abi_bytes_slot boot.l1Head.data (boot.l2Claim.data ++
    ((wordOfNat boot.l2BlockNumber.toNat).data ++ boot.rollupConfigHash.data)) boot.l2PreRoot 32 64 boot.l1Head.size rfl
  have claim := abi_bytes_slot (boot.l1Head.data ++ boot.l2PreRoot.data)
    ((wordOfNat boot.l2BlockNumber.toNat).data ++ boot.rollupConfigHash.data) boot.l2Claim 64 96 (by simp [Bytes32.size]) rfl
  have number := abi_bytes_slot (boot.l1Head.data ++ (boot.l2PreRoot.data ++ boot.l2Claim.data))
    boot.rollupConfigHash.data (wordOfNat boot.l2BlockNumber.toNat) 96 128 (by simp [Bytes32.size]) rfl
  have config := abi_bytes_slot (boot.l1Head.data ++ (boot.l2PreRoot.data ++ (boot.l2Claim.data ++
    (wordOfNat boot.l2BlockNumber.toNat).data))) [] boot.rollupConfigHash 128 160 (by simp [Bytes32.size]) rfl
  simp only [List.append_assoc, List.nil_append, List.append_nil] at l1Head preRoot claim number config
  rw [BootInfo.fromAbiBytes, if_neg long]
  simp only [BootInfo.toAbiBytes, l1Head, preRoot, claim, number, config, word_uint64]

namespace WitnessProvider

def fetchBlock (env : Env) (url label : String) (blockNumber : UInt64) : Except RpcWitnessError L2Block :=
  match env.blockByNumber url blockNumber with
  | .error reason => .error (.fetch s!"{label}: {reason}")
  | .ok none => .error (.fetch s!"L2 block {blockNumber} not found")
  | .ok (some block) => .ok block

def outputPayload (block : L2Block) : Bytes :=
  List.replicate 32 0 ++ (block.stateRoot.data ++ ((block.withdrawalsRoot.getD zeroWord).data ++ block.hash.data))

def fetchFromL2Node (env : Env) (provider : RpcWitnessProvider) (blockNumber : UInt64) : Except RpcWitnessError Bytes32 :=
  match env.outputAtBlock provider.l2RpcUrl blockNumber with
  | some root => .ok root
  | none => (fetchBlock env provider.l2RpcUrl s!"L2 block {blockNumber}" blockNumber).map fun block =>
      env.keccak256 (outputPayload block)

def fetchOutputRoot (env : Env) (provider : RpcWitnessProvider) (blockNumber : UInt64) : Except RpcWitnessError Bytes32 :=
  match provider.opNodeUrl with
  | none => fetchFromL2Node env provider blockNumber
  | some url =>
      match env.parseUrl url with
      | .error reason => .error (.connection s!"invalid OP Node URL: {reason}")
      | .ok _ =>
          match env.outputAtBlock url blockNumber with
          | some root => .ok root
          | none => fetchFromL2Node env provider blockNumber

def buildHostConfig (provider : RpcWitnessProvider) (request : ProofRequest) (agreedL2HeadHash claimedL2OutputRoot : Bytes32)
    (rollupConfigPath l1ConfigPath : String) : SingleChainHost where
  l1Head := request.l1Head
  agreedL2HeadHash := agreedL2HeadHash
  agreedL2OutputRoot := request.l2StartOutputRoot
  claimedL2OutputRoot := claimedL2OutputRoot
  claimedL2BlockNumber := request.l2EndBlock
  l1NodeAddress := some provider.l1RpcUrl
  l2NodeAddress := some provider.l2RpcUrl
  l1BeaconAddress := some provider.l1BeaconUrl
  native := true
  server := false
  l2ChainId := provider.l2ChainId
  rollupConfigPath := some rollupConfigPath
  l1ConfigPath := some l1ConfigPath
  dataDir := none

def injectOne (get : Bytes32 → Option Bytes) (preimages : PreimageMap) (index : UInt64) : PreimageMap :=
  match get (PreimageKey.newLocal index).toBytes with
  | some value => preimages.insert (PreimageKey.newLocal index).toBytes value
  | none => preimages

def injectLocal (get : Bytes32 → Option Bytes) (preimages : PreimageMap) : PreimageMap :=
  [1, 2, 3, 4, 5, 6, 7].foldl (injectOne get) preimages

def parseL2Url (env : Env) (provider : RpcWitnessProvider) : Except RpcWitnessError Unit :=
  match env.parseUrl provider.l2RpcUrl with
  | .error reason => .error (.connection s!"invalid L2 URL: {reason}")
  | .ok _ => .ok ()

def generateWitness (env : Env) (provider : RpcWitnessProvider) (request : ProofRequest) :
    Except RpcWitnessError RawWitness :=
  env.ensureRollupConfig.bind fun rollupConfigPath =>
  (env.computeRollupConfigHash rollupConfigPath).bind fun rollupConfigHash =>
  (parseL2Url env provider).bind fun _ =>
  (fetchBlock env provider.l2RpcUrl "L2 start block" request.l2StartBlock).bind fun startBlock =>
  (fetchOutputRoot env provider request.l2EndBlock).bind fun claimedL2OutputRoot =>
  (env.l1ChainId rollupConfigPath).bind fun l1ChainId =>
  (env.ensureL1Config l1ChainId).bind fun l1ConfigPath =>
  let host := buildHostConfig provider request startBlock.hash claimedL2OutputRoot rollupConfigPath l1ConfigPath
  (env.collectWitness host).bind fun store =>
  let bootInfo : BootInfo :=
    ⟨request.l1Head, request.l2StartOutputRoot, claimedL2OutputRoot, request.l2EndBlock, rollupConfigHash⟩
  .ok {
    bootInfo := bootInfo.toAbiBytes
    oracleData := env.serializePreimages (injectLocal (env.localInputs host) store)
    blobData := [] }

def prepareHost (env : Env) (provider : RpcWitnessProvider) (request : ProofRequest) :
    Except RpcWitnessError (SingleChainHost × BootInfo) :=
  env.ensureRollupConfig.bind fun rollupConfigPath =>
  (env.computeRollupConfigHash rollupConfigPath).bind fun rollupConfigHash =>
  (parseL2Url env provider).bind fun _ =>
  (fetchBlock env provider.l2RpcUrl "L2 start block" request.l2StartBlock).bind fun startBlock =>
  (fetchOutputRoot env provider request.l2EndBlock).bind fun claimedL2OutputRoot =>
  (env.l1ChainId rollupConfigPath).bind fun l1ChainId =>
  (env.ensureL1Config l1ChainId).bind fun l1ConfigPath =>
  .ok (buildHostConfig provider request startBlock.hash claimedL2OutputRoot rollupConfigPath l1ConfigPath,
    ⟨request.l1Head, request.l2StartOutputRoot, claimedL2OutputRoot, request.l2EndBlock, rollupConfigHash⟩)

def finishWitness (env : Env) (prepared : SingleChainHost × BootInfo) : Except RpcWitnessError RawWitness :=
  (env.collectWitness prepared.1).bind fun store =>
  .ok {
    bootInfo := prepared.2.toAbiBytes
    oracleData := env.serializePreimages (injectLocal (env.localInputs prepared.1) store)
    blobData := [] }

theorem bind_ok {ε α β : Type} (first : Except ε α) (next : α → Except ε β) (result : β)
    (succeeded : first.bind next = .ok result) : ∃ value, first = .ok value ∧ next value = .ok result := by
  cases first with
  | error reason => cases succeeded
  | ok value => exact ⟨value, rfl, succeeded⟩

theorem except_bind_assoc {ε α β γ : Type} (first : Except ε α) (next : α → Except ε β) (last : β → Except ε γ) :
    (first.bind next).bind last = first.bind fun value => (next value).bind last := by
  cases first <;> rfl

theorem generate_witness_prepared (env : Env) (provider : RpcWitnessProvider) (request : ProofRequest) :
    generateWitness env provider request = (prepareHost env provider request).bind (finishWitness env) := by
  simp only [prepareHost, except_bind_assoc]
  rfl

theorem fetch_block_ok (env : Env) (url label : String) (blockNumber : UInt64) (block : L2Block)
    (fetched : fetchBlock env url label blockNumber = .ok block) : env.blockByNumber url blockNumber = .ok (some block) := by
  rw [fetchBlock] at fetched
  split at fetched
  · cases fetched
  · cases fetched
  · rename_i found answered
    rw [answered, Except.ok.inj fetched]

theorem parse_l2_url_ok (env : Env) (provider : RpcWitnessProvider) (parsed : parseL2Url env provider = .ok ()) :
    env.parseUrl provider.l2RpcUrl = .ok () := by
  rw [parseL2Url] at parsed
  split at parsed
  · cases parsed
  · rename_i answered
    exact answered

theorem prepare_host_ok (env : Env) (provider : RpcWitnessProvider) (request : ProofRequest)
    (prepared : SingleChainHost × BootInfo) (succeeded : prepareHost env provider request = .ok prepared) :
    ∃ startBlock claimedL2OutputRoot rollupConfigPath rollupConfigHash l1ChainId l1ConfigPath,
      env.parseUrl provider.l2RpcUrl = .ok () ∧ env.ensureRollupConfig = .ok rollupConfigPath ∧
      env.computeRollupConfigHash rollupConfigPath = .ok rollupConfigHash ∧
      env.blockByNumber provider.l2RpcUrl request.l2StartBlock = .ok (some startBlock) ∧
      fetchOutputRoot env provider request.l2EndBlock = .ok claimedL2OutputRoot ∧
      env.l1ChainId rollupConfigPath = .ok l1ChainId ∧ env.ensureL1Config l1ChainId = .ok l1ConfigPath ∧
      prepared = (buildHostConfig provider request startBlock.hash claimedL2OutputRoot rollupConfigPath l1ConfigPath,
        ⟨request.l1Head, request.l2StartOutputRoot, claimedL2OutputRoot, request.l2EndBlock, rollupConfigHash⟩) := by
  obtain ⟨rollupConfigPath, configured, succeeded⟩ := bind_ok _ _ _ succeeded
  obtain ⟨rollupConfigHash, hashed, succeeded⟩ := bind_ok _ _ _ succeeded
  obtain ⟨_, parsed, succeeded⟩ := bind_ok _ _ _ succeeded
  obtain ⟨startBlock, fetched, succeeded⟩ := bind_ok _ _ _ succeeded
  obtain ⟨claimedL2OutputRoot, claimed, succeeded⟩ := bind_ok _ _ _ succeeded
  obtain ⟨l1ChainId, chainId, succeeded⟩ := bind_ok _ _ _ succeeded
  obtain ⟨l1ConfigPath, l1, succeeded⟩ := bind_ok _ _ _ succeeded
  exact ⟨startBlock, claimedL2OutputRoot, rollupConfigPath, rollupConfigHash, l1ChainId, l1ConfigPath,
    parse_l2_url_ok env provider parsed, configured, hashed, fetch_block_ok _ _ _ _ _ fetched, claimed, chainId, l1,
    (Except.ok.inj succeeded).symm⟩

theorem generate_witness_ok (env : Env) (provider : RpcWitnessProvider) (request : ProofRequest) (witness : RawWitness)
    (generated : generateWitness env provider request = .ok witness) :
    ∃ startBlock claimedL2OutputRoot rollupConfigPath rollupConfigHash l1ConfigPath store,
      env.ensureRollupConfig = .ok rollupConfigPath ∧ env.computeRollupConfigHash rollupConfigPath = .ok rollupConfigHash ∧
      env.blockByNumber provider.l2RpcUrl request.l2StartBlock = .ok (some startBlock) ∧
      fetchOutputRoot env provider request.l2EndBlock = .ok claimedL2OutputRoot ∧
      env.collectWitness (buildHostConfig provider request startBlock.hash claimedL2OutputRoot rollupConfigPath
        l1ConfigPath) = .ok store ∧
      witness = ⟨BootInfo.toAbiBytes ⟨request.l1Head, request.l2StartOutputRoot, claimedL2OutputRoot, request.l2EndBlock,
          rollupConfigHash⟩,
        env.serializePreimages (injectLocal (env.localInputs (buildHostConfig provider request startBlock.hash
          claimedL2OutputRoot rollupConfigPath l1ConfigPath)) store), []⟩ := by
  rw [generate_witness_prepared] at generated
  obtain ⟨prepared, succeeded, finished⟩ := bind_ok _ _ _ generated
  obtain ⟨startBlock, claimedL2OutputRoot, rollupConfigPath, rollupConfigHash, _, l1ConfigPath, _, configured, hashed, found,
    claimed, _, _, rfl⟩ := prepare_host_ok env provider request prepared succeeded
  obtain ⟨store, collected, finished⟩ := bind_ok _ _ _ finished
  exact ⟨startBlock, claimedL2OutputRoot, rollupConfigPath, rollupConfigHash, l1ConfigPath, store, configured, hashed,
    found, claimed, collected, (Except.ok.inj finished).symm⟩

theorem prepare_host_of (env : Env) (provider : RpcWitnessProvider) (request : ProofRequest)
    (rollupConfigPath l1ConfigPath : String) (rollupConfigHash claimedL2OutputRoot : Bytes32) (startBlock : L2Block)
    (l1ChainId : UInt64) (rollup : env.ensureRollupConfig = .ok rollupConfigPath)
    (hashed : env.computeRollupConfigHash rollupConfigPath = .ok rollupConfigHash)
    (parsed : env.parseUrl provider.l2RpcUrl = .ok ())
    (found : env.blockByNumber provider.l2RpcUrl request.l2StartBlock = .ok (some startBlock))
    (claimed : fetchOutputRoot env provider request.l2EndBlock = .ok claimedL2OutputRoot)
    (chainId : env.l1ChainId rollupConfigPath = .ok l1ChainId) (l1 : env.ensureL1Config l1ChainId = .ok l1ConfigPath) :
    prepareHost env provider request =
      .ok (buildHostConfig provider request startBlock.hash claimedL2OutputRoot rollupConfigPath l1ConfigPath,
        ⟨request.l1Head, request.l2StartOutputRoot, claimedL2OutputRoot, request.l2EndBlock, rollupConfigHash⟩) := by
  simp only [prepareHost, rollup, hashed, parseL2Url, parsed, fetchBlock, found, claimed, chainId, l1, Except.bind]

theorem generate_witness_of (env : Env) (provider : RpcWitnessProvider) (request : ProofRequest)
    (rollupConfigPath l1ConfigPath : String) (rollupConfigHash claimedL2OutputRoot : Bytes32) (startBlock : L2Block)
    (l1ChainId : UInt64) (store : PreimageMap) (rollup : env.ensureRollupConfig = .ok rollupConfigPath)
    (hashed : env.computeRollupConfigHash rollupConfigPath = .ok rollupConfigHash)
    (parsed : env.parseUrl provider.l2RpcUrl = .ok ())
    (found : env.blockByNumber provider.l2RpcUrl request.l2StartBlock = .ok (some startBlock))
    (claimed : fetchOutputRoot env provider request.l2EndBlock = .ok claimedL2OutputRoot)
    (chainId : env.l1ChainId rollupConfigPath = .ok l1ChainId) (l1 : env.ensureL1Config l1ChainId = .ok l1ConfigPath)
    (collected : env.collectWitness (buildHostConfig provider request startBlock.hash claimedL2OutputRoot
      rollupConfigPath l1ConfigPath) = .ok store) :
    generateWitness env provider request =
      .ok ⟨BootInfo.toAbiBytes ⟨request.l1Head, request.l2StartOutputRoot, claimedL2OutputRoot, request.l2EndBlock,
          rollupConfigHash⟩,
        env.serializePreimages (injectLocal (env.localInputs (buildHostConfig provider request startBlock.hash
          claimedL2OutputRoot rollupConfigPath l1ConfigPath)) store), []⟩ := by
  rw [generate_witness_prepared, prepare_host_of env provider request rollupConfigPath l1ConfigPath rollupConfigHash
    claimedL2OutputRoot startBlock l1ChainId rollup hashed parsed found claimed chainId l1]
  simp only [Except.bind, finishWitness, collected]

theorem inject_one_here (get : Bytes32 → Option Bytes) (preimages : PreimageMap) (index : UInt64) (value : Bytes)
    (served : get (PreimageKey.newLocal index).toBytes = some value) :
    (injectOne get preimages index).lookup (PreimageKey.newLocal index).toBytes = some value := by
  rw [injectOne, served]
  exact Finmap.lookup_insert _

theorem inject_one_elsewhere (get : Bytes32 → Option Bytes) (preimages : PreimageMap) (index : UInt64) (word : Bytes32)
    (different : word ≠ (PreimageKey.newLocal index).toBytes) :
    (injectOne get preimages index).lookup word = preimages.lookup word := by
  rw [injectOne]
  split
  · exact Finmap.lookup_insert_of_ne _ different
  · rfl

theorem inject_fold_elsewhere (get : Bytes32 → Option Bytes) (indices : List UInt64) (preimages : PreimageMap)
    (word : Bytes32) (different : ∀ index ∈ indices, word ≠ (PreimageKey.newLocal index).toBytes) :
    (indices.foldl (injectOne get) preimages).lookup word = preimages.lookup word := by
  induction indices generalizing preimages with
  | nil => rfl
  | cons index rest ih =>
      rw [List.foldl_cons, ih _ (fun other member => different other (List.mem_cons_of_mem index member)),
        inject_one_elsewhere get preimages index word (different index List.mem_cons_self)]

theorem inject_fold_member (get : Bytes32 → Option Bytes) (indices : List UInt64) (preimages : PreimageMap)
    (index : UInt64) (value : Bytes) (member : index ∈ indices)
    (served : get (PreimageKey.newLocal index).toBytes = some value) :
    (indices.foldl (injectOne get) preimages).lookup (PreimageKey.newLocal index).toBytes = some value := by
  induction indices generalizing preimages with
  | nil => cases member
  | cons head rest ih =>
      rw [List.foldl_cons]
      by_cases later : index ∈ rest
      · exact ih _ later
      · rcases List.mem_cons.mp member with rfl | inRest
        · rw [inject_fold_elsewhere get rest _ _ ?_, inject_one_here get preimages index value served]
          intro other present same
          rw [PreimageStore.new_local_inj index other same] at later
          exact later present
        · exact absurd inRest later

theorem inject_local_here (get : Bytes32 → Option Bytes) (preimages : PreimageMap) (index : UInt64) (value : Bytes)
    (member : index ∈ [(1 : UInt64), 2, 3, 4, 5, 6, 7]) (served : get (PreimageKey.newLocal index).toBytes = some value) :
    (injectLocal get preimages).lookup (PreimageKey.newLocal index).toBytes = some value :=
  inject_fold_member get _ preimages index value member served

theorem inject_local_other (get : Bytes32 → Option Bytes) (preimages : PreimageMap) (key : PreimageKey)
    (other : key.keyType ≠ .local) : (injectLocal get preimages).lookup key.toBytes = preimages.lookup key.toBytes :=
  inject_fold_elsewhere get _ preimages key.toBytes
    (fun index _ => PreimageStore.key_types_differ key (PreimageKey.newLocal index) other)

end WitnessProvider

end OpenZk
