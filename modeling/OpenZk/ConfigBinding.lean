import OpenZk.RollupConfig

set_option autoImplicit false

namespace OpenZk.RollupConfig

open Words

def Lossless (p : Process) : Prop := ∀ config text, p.toStringPretty config = .ok text → p.fromStr text = .ok config

def Holds (p : Process) (files : Files) (path : String) (config : Json) : Prop :=
  (readToString p files path).bind p.fromStr = .ok config

def Framed (p : Process) (files other : Files) : Prop :=
  ∀ path, path ≠ rollupTempPath p → path ≠ l1TempPath p → other path = files path

theorem framed_refl (p : Process) (files : Files) : Framed p files files := fun _ _ _ => rfl

theorem framed_trans (p : Process) (files between last : Files) (first : Framed p files between) (second : Framed p between last) :
    Framed p files last :=
  fun path rollup l1 => (second path rollup l1).trans (first path rollup l1)

theorem framed_update (p : Process) (files : Files) (path : String) (contents : Except String Bytes)
    (temporary : path = rollupTempPath p ∨ path = l1TempPath p) : Framed p files (Function.update files path contents) := by
  intro other rollup l1
  rcases temporary with rfl | rfl
  · exact Function.update_of_ne rollup _ _
  · exact Function.update_of_ne l1 _ _

theorem temp_paths_differ (p : Process) : rollupTempPath p ≠ l1TempPath p := by
  intro same
  have names : s!"open-zk-rollup-config-{p.processId}.json" = s!"open-zk-l1-config-{p.processId}.json" := by
    unfold rollupTempPath l1TempPath join at same
    split at same
    · exact (String.append_right_inj _).mp same
    · exact (String.append_right_inj _).mp ((String.append_right_inj _).mp same)
  have heads := congrArg (fun text => (text.toList.drop 8).head?) names
  simp [toString] at heads

section Answers

variable (p : Process) (r : Remote) (provider : RpcWitnessProvider)

theorem usable_path_some (files : Files) (given path : String) (usable : usablePath p files given = some path) :
    p.canonicalize files given = .ok path ∧ ∃ config, Holds p files path config := by
  rw [usablePath] at usable
  split at usable
  · cases usable
  · rename_i absPath resolved
    split at usable
    · cases usable
    · rename_i config parsed
      cases usable
      exact ⟨resolved, config, parsed⟩

theorem write_config_ok (serialized written path target : String) (config : Json) (files after : Files)
    (wrote : writeConfig p serialized written path config files = .ok target after) :
    target = path ∧ ∃ text, p.toStringPretty config = .ok text ∧ after = Function.update files path (.ok (encode text)) := by
  rw [writeConfig] at wrote
  split at wrote
  · cases wrote
  · rename_i text printed
    split at wrote
    · cases wrote
    · cases wrote
      exact ⟨rfl, text, printed, rfl⟩

theorem written_holds (lossless : Lossless p) (files : Files) (path text : String) (config : Json)
    (printed : p.toStringPretty config = .ok text) : Holds p (Function.update files path (.ok (encode text))) path config := by
  rw [Holds, readToString, Function.update_self]
  simp only [Except.bind, decode_encode]
  exact lossless config text printed

theorem holds_of_same (files other : Files) (path : String) (config : Json) (same : other path = files path)
    (holds : Holds p files path config) : Holds p other path config := by
  rw [Holds, readToString, same]
  exact holds

theorem holds_read (files : Files) (path : String) (config : Json) (holds : Holds p files path config) :
    ∃ bytes text, files path = .ok bytes ∧ decode bytes = some text ∧ p.fromStr text = .ok config := by
  rw [Holds, readToString] at holds
  cases contents : files path with
  | error reason => simp [contents, Except.bind] at holds
  | ok bytes =>
      cases decoded : decode bytes with
      | none => simp [contents, decoded, Except.bind] at holds
      | some text =>
          simp only [contents, decoded, Except.bind] at holds
          exact ⟨bytes, text, rfl, decoded, holds⟩

theorem hash_of_held (files : Files) (path : String) (config : Json) (hash : Bytes32) (holds : Holds p files path config) :
    computeRollupConfigHash p r files path = .ok hash ↔ ∃ canonical, p.toVec config = .ok canonical ∧ r.keccak256 canonical = hash := by
  obtain ⟨bytes, text, contents, decoded, parsed⟩ := holds_read p files path config holds
  simp only [computeRollupConfigHash, contents, fromSlice, decoded, parsed]
  cases p.toVec config with
  | error reason => simp
  | ok canonical => simp

theorem chain_id_of_held (files : Files) (path : String) (config : Json) (holds : Holds p files path config) :
    l1ChainId p files path = .ok (chainIdOf config) := by
  obtain ⟨bytes, text, contents, decoded, parsed⟩ := holds_read p files path config holds
  simp only [l1ChainId, readToString, contents, Except.bind, decoded, parsed]

def Merged (base config : Json) : Prop :=
  ∀ key, config.get key =
    (base.get key).or ((r.debugChainConfig provider.l2RpcUrl).bind fun chainConfig => chainConfig.offer key forkMappings)

theorem merge_fork_times_ok (base config : Json)
    (merged : mergeForkTimes (r.debugChainConfig provider.l2RpcUrl) base = .ok config) : Merged r provider base config := by
  intro key
  unfold mergeForkTimes at merged
  split at merged
  · rename_i absent
    cases merged
    simp [absent]
  · rename_i chainConfig present
    split at merged
    · rename_i filled
      cases merged
      rw [present, Json.fill_get forkMappings base config filled]
      rfl
    · cases merged

theorem fetch_rollup_config_ok (config : Json) (fetched : fetchRollupConfig r provider = .ok config) :
    ∃ opNodeUrl base, provider.opNodeUrl = some opNodeUrl ∧ r.optimismRollupConfig opNodeUrl = .ok base ∧
      Merged r provider base config := by
  rw [fetchRollupConfig] at fetched
  split at fetched
  · cases fetched
  · rename_i opNodeUrl given
    split at fetched
    · cases fetched
    · split at fetched
      · cases fetched
      · rename_i base served
        split at fetched
        · cases fetched
        · exact ⟨opNodeUrl, base, given, served, merge_fork_times_ok r provider base config fetched⟩

inductive Origin (files : Files) (path : String) (config : Json) : Prop where
  | file (given : String) (configured : provider.rollupConfigPath = some given)
      (resolved : p.canonicalize files given = .ok path) (stands : Holds p files path config)
  | node (temporary : path = rollupTempPath p) (opNodeUrl : String) (base : Json) (given : provider.opNodeUrl = some opNodeUrl)
      (served : r.optimismRollupConfig opNodeUrl = .ok base) (merged : Merged r provider base config)

theorem ensure_rollup_config_ok (lossless : Lossless p) (files after : Files) (path : String)
    (ensured : ensureRollupConfig p r provider files = .ok path after) :
    ∃ config, Holds p after path config ∧ Origin p r provider files path config := by
  rw [ensureRollupConfig] at ensured
  split at ensured
  · rename_i absPath usable
    cases ensured
    obtain ⟨given, configured, usable⟩ := Option.bind_eq_some_iff.mp usable
    obtain ⟨resolved, config, holds⟩ := usable_path_some p files given path usable
    exact ⟨config, holds, .file given configured resolved holds⟩
  · split at ensured
    · cases ensured
    · rename_i config fetched
      obtain ⟨rfl, text, printed, rfl⟩ := write_config_ok p _ _ _ path config files after ensured
      obtain ⟨opNodeUrl, base, given, served, merged⟩ := fetch_rollup_config_ok r provider config fetched
      exact ⟨config, written_holds p lossless files _ text config printed, .node rfl opNodeUrl base given served merged⟩

theorem ensure_l1_config_ok (lossless : Lossless p) (number : UInt64) (files after : Files) (path : String)
    (ensured : ensureL1Config p r provider number files = .ok path after) :
    path = l1TempPath p ∧ Holds p after path (l1Config r provider number) ∧
      ∀ other, other ≠ l1TempPath p → after other = files other := by
  rw [ensureL1Config] at ensured
  split at ensured
  · cases ensured
  · obtain ⟨rfl, text, printed, rfl⟩ := write_config_ok p _ _ _ path _ files after ensured
    exact ⟨rfl, written_holds p lossless files _ text _ printed, fun other different => Function.update_of_ne different _ _⟩

theorem reading_ok {α : Type} (answer : Files → Except RpcWitnessError α) (files after : Files) (value : α) :
    reading answer files = .ok value after ↔ answer files = .ok value ∧ after = files := by
  rw [reading]
  cases answer files with
  | ok found => simp [eq_comm]
  | error reason => simp

theorem preflight_ok (request : ProofRequest) (path : String) (files : Files) (hash startHash claimed : Bytes32) (number : UInt64)
    (succeeded : preflight p r provider request path files = .ok (hash, startHash, claimed, number)) :
    computeRollupConfigHash p r files path = .ok hash ∧ l1ChainId p files path = .ok number := by
  obtain ⟨found, hashed, succeeded⟩ := WitnessProvider.bind_ok _ _ _ succeeded
  obtain ⟨_, _, succeeded⟩ := WitnessProvider.bind_ok _ _ _ succeeded
  obtain ⟨_, _, succeeded⟩ := WitnessProvider.bind_ok _ _ _ succeeded
  obtain ⟨_, _, succeeded⟩ := WitnessProvider.bind_ok _ _ _ succeeded
  obtain ⟨identified, chainId, succeeded⟩ := WitnessProvider.bind_ok _ _ _ succeeded
  simp only [Except.ok.injEq, Prod.mk.injEq] at succeeded
  obtain ⟨rfl, _, _, rfl⟩ := succeeded
  exact ⟨hashed, chainId⟩

end Answers

section Frame

variable (p : Process)

theorem reading_leaves {α : Type} (answer : Files → Except RpcWitnessError α) : Stateful.Leaves (Framed p) (reading answer) := by
  intro files
  rw [reading]
  split <;> exact framed_refl p files

theorem write_config_leaves (serialized written path : String) (config : Json)
    (temporary : path = rollupTempPath p ∨ path = l1TempPath p) :
    Stateful.Leaves (Framed p) (writeConfig p serialized written path config) := by
  intro files
  rw [writeConfig]
  split
  · exact framed_refl p files
  · split
    · exact framed_update p files path _ temporary
    · exact framed_update p files path _ temporary

theorem ensure_rollup_config_leaves (r : Remote) (provider : RpcWitnessProvider) :
    Stateful.Leaves (Framed p) (ensureRollupConfig p r provider) := by
  intro files
  rw [ensureRollupConfig]
  split
  · exact framed_refl p files
  · split
    · exact framed_refl p files
    · exact write_config_leaves p _ _ _ _ (.inl rfl) files

theorem ensure_l1_config_leaves (r : Remote) (provider : RpcWitnessProvider) (number : UInt64) :
    Stateful.Leaves (Framed p) (ensureL1Config p r provider number) := by
  intro files
  rw [ensureL1Config]
  split
  · exact framed_refl p files
  · exact write_config_leaves p _ _ _ _ (.inr rfl) files

theorem generate_witness_leaves (r : Remote) (provider : RpcWitnessProvider) (request : ProofRequest) :
    Stateful.Leaves (Framed p) (generateWitness p r provider request) := by
  refine Stateful.leaves_bind (framed_trans p) (ensure_rollup_config_leaves p r provider) fun path => ?_
  refine Stateful.leaves_bind (framed_trans p) (reading_leaves p _) fun found => ?_
  refine Stateful.leaves_bind (framed_trans p) (ensure_l1_config_leaves p r provider _) fun l1 => ?_
  exact reading_leaves p _

end Frame

structure Built (p : Process) (r : Remote) (provider : RpcWitnessProvider) (files after : Files) (witness : RawWitness)
    (path : String) (config : Json) : Prop where
  holds : Holds p after path config
  origin : Origin p r provider files path config
  committed : ∃ canonical boot, p.toVec config = .ok canonical ∧ BootInfo.fromAbiBytes witness.bootInfo = some boot ∧
    boot.rollupConfigHash = r.keccak256 canonical
  served : ∃ host store, host.rollupConfigPath = some path ∧ host.l1ConfigPath = some (l1TempPath p) ∧
    r.collectWitness host (after path) (after (l1TempPath p)) = .ok store ∧
    witness.oracleData = r.serializePreimages (WitnessProvider.injectLocal
      (r.localInputs host (after path) (after (l1TempPath p))) store)
  l1 : Holds p after (l1TempPath p) (l1Config r provider (chainIdOf config))
  framed : Framed p files after

/-- Every witness commits to the configuration its host read: the configured file as it stands, or
the OP node's answer completed by the chain's forks. -/
theorem config_hash_binds (p : Process) (lossless : Lossless p) (r : Remote) (provider : RpcWitnessProvider)
    (request : ProofRequest) (files after : Files) (witness : RawWitness)
    (apart : ∀ given path, provider.rollupConfigPath = some given → p.canonicalize files given = .ok path → path ≠ l1TempPath p)
    (returned : generateWitness p r provider request files = .ok witness after) :
    ∃ path config, Built p r provider files after witness path config := by
  have framed := generate_witness_leaves p r provider request files
  rw [returned] at framed
  -- The returned run has come through each of its steps.
  obtain ⟨path, configured, ensured, prepares⟩ := Stateful.bind_returned returned
  obtain ⟨⟨hash, startHash, claimed, number⟩, between, checked, continues⟩ := Stateful.bind_returned prepares
  obtain ⟨l1Path, last, ensuredL1, finishes⟩ := Stateful.bind_returned continues
  obtain ⟨read, rfl⟩ := (reading_ok _ _ _ _).mp checked
  obtain ⟨collected, rfl⟩ := (reading_ok _ _ _ _).mp finishes
  obtain ⟨config, holds, origin⟩ := ensure_rollup_config_ok p r provider lossless files _ path ensured
  obtain ⟨hashed, chainId⟩ := preflight_ok p r provider request path _ hash startHash claimed number read
  obtain ⟨rfl, l1Holds, kept⟩ := ensure_l1_config_ok p r provider lossless number _ _ l1Path ensuredL1
  obtain ⟨canonical, printed, rfl⟩ := (hash_of_held p r _ path config hash holds).mp hashed
  obtain rfl := Except.ok.inj (chainId.symm.trans (chain_id_of_held p _ path config holds))
  -- The second configuration is written elsewhere and leaves the first as it was hashed.
  have elsewhere : path ≠ l1TempPath p := by
    cases origin with
    | file given configured resolved stands => exact apart given path configured resolved
    | node temporary _ _ _ _ _ =>
        rw [temporary]
        exact temp_paths_differ p
  obtain ⟨store, gathered, finished⟩ := WitnessProvider.bind_ok _ _ _ collected
  obtain rfl := Except.ok.inj finished
  exact ⟨path, config, holds_of_same p _ _ path config (kept path elsewhere) holds, origin,
    ⟨canonical, _, printed, boot_info_round_trip _, rfl⟩, ⟨_, store, rfl, rfl, gathered, rfl⟩, l1Holds, framed⟩

def emptyConfig : Json := .object []

def canyonConfig : Json := .object [("canyon_time", natural 0)]

def sampleParse (text : String) : Except String Json :=
  if text = "\x7b\x7d" then .ok emptyConfig
  else if text = "\x7b\n  \"canyon_time\": 0\n\x7d" then .ok canyonConfig
  else .error "expected value at line 1 column 1"

def samplePrint (empty canyon : String) : Json → Except String String
  | .object [] => .ok empty
  | .object [("canyon_time", .number (.posInt 0))] => .ok canyon
  | _ => .error "not printed"

def sampleProcess : Process where
  processId := 1
  tempDir := "/tmp"
  canonicalize := fun _ _ => .error "No such file or directory"
  writeFault := fun _ _ => none
  utf8Error := fun _ => "stream did not contain valid UTF-8"
  fromStr := sampleParse
  toStringPretty := samplePrint "\x7b\x7d" "\x7b\n  \"canyon_time\": 0\n\x7d"
  toVec := fun config => (samplePrint "\x7b\x7d" "\x7b\"canyon_time\":0\x7d" config).map encode

def sampleChainConfig (url : String) : Option Json :=
  if url = "http://l2" then some (.object [("canyonTime", natural 0)]) else some emptyConfig

def sampleRemote : Remote where
  parseUrl := fun _ => .ok ()
  blockByNumber := fun _ _ => .ok (some ⟨zeroWord, zeroWord, none⟩)
  outputAtBlock := fun _ _ => some zeroWord
  optimismRollupConfig := fun _ => .ok emptyConfig
  debugChainConfig := sampleChainConfig
  collectWitness := fun _ _ _ => .ok ∅
  localInputs := fun _ _ _ _ => none
  serializePreimages := fun _ => []
  keccak256 := pack

def sampleProvider : RpcWitnessProvider := ⟨"http://l1", "http://l2", "http://beacon", some "http://op", none, none⟩

def sampleRequest : ProofRequest := ⟨zeroWord, 1, 2, zeroWord, .compressed⟩

def noFiles : Files := fun _ => .error "No such file or directory"

theorem sample_lossless : Lossless sampleProcess := by
  intro config text printed
  change samplePrint _ _ config = .ok text at printed
  unfold samplePrint at printed
  split at printed
  · cases printed
    simp [sampleProcess, sampleParse, emptyConfig]
  · cases printed
    simp [sampleProcess, sampleParse, canyonConfig, natural]
  · cases printed

theorem sample_fetched : fetchRollupConfig sampleRemote sampleProvider = .ok canyonConfig := by
  simp [fetchRollupConfig, sampleRemote, sampleProvider, sampleChainConfig, mergeForkTimes, forkMappings, Json.fill, Json.offered,
    Json.get, Json.member, Json.isNull, Json.set, Json.putMember, emptyConfig, canyonConfig, natural, Option.filter]

def afterRollup : Files :=
  Function.update noFiles (rollupTempPath sampleProcess) (.ok (encode "\x7b\n  \"canyon_time\": 0\n\x7d"))

def afterL1 : Files := Function.update afterRollup (l1TempPath sampleProcess) (.ok (encode "\x7b\x7d"))

theorem sample_ensured :
    ensureRollupConfig sampleProcess sampleRemote sampleProvider noFiles = .ok (rollupTempPath sampleProcess) afterRollup := by
  have unset : sampleProvider.rollupConfigPath.bind (usablePath sampleProcess noFiles) = none := rfl
  simp only [ensureRollupConfig, unset, sample_fetched]
  rfl

theorem sample_held : Holds sampleProcess afterRollup (rollupTempPath sampleProcess) canyonConfig :=
  written_holds sampleProcess sample_lossless noFiles _ _ canyonConfig rfl

theorem sample_hashed :
    computeRollupConfigHash sampleProcess sampleRemote afterRollup (rollupTempPath sampleProcess) =
      .ok (pack (encode "\x7b\"canyon_time\":0\x7d")) :=
  (hash_of_held sampleProcess sampleRemote _ _ canyonConfig _ sample_held).mpr ⟨_, rfl, rfl⟩

def sampleWitness : RawWitness where
  bootInfo := BootInfo.toAbiBytes ⟨zeroWord, zeroWord, zeroWord, 2, pack (encode "\x7b\"canyon_time\":0\x7d")⟩
  oracleData := []
  blobData := []

theorem sample_returned :
    generateWitness sampleProcess sampleRemote sampleProvider sampleRequest noFiles = .ok sampleWitness afterL1 := by
  have checked : preflight sampleProcess sampleRemote sampleProvider sampleRequest (rollupTempPath sampleProcess) afterRollup =
      .ok (pack (encode "\x7b\"canyon_time\":0\x7d"), zeroWord, zeroWord, chainIdOf canyonConfig) := by
    rw [preflight, sample_hashed, chain_id_of_held sampleProcess _ _ canyonConfig sample_held]
    rfl
  have configured : ensureL1Config sampleProcess sampleRemote sampleProvider (chainIdOf canyonConfig) afterRollup =
      .ok (l1TempPath sampleProcess) afterL1 := by
    simp [ensureL1Config, l1Config, sampleRemote, sampleProvider, sampleChainConfig]
    rfl
  refine (Stateful.bind_continues sample_ensured).trans ?_
  refine (Stateful.bind_continues ((reading_ok _ _ _ _).mpr ⟨checked, rfl⟩)).trans ?_
  refine (Stateful.bind_continues configured).trans ?_
  exact (reading_ok _ _ _ _).mpr ⟨rfl, rfl⟩

theorem config_hash_binds_sample :
    ∃ path config, Built sampleProcess sampleRemote sampleProvider noFiles afterL1 sampleWitness path config :=
  config_hash_binds sampleProcess sample_lossless sampleRemote sampleProvider sampleRequest noFiles afterL1 sampleWitness
    (fun _ _ configured => by cases configured) sample_returned

end OpenZk.RollupConfig
