import Mathlib.Logic.Function.Basic
import OpenZk.Json
import OpenZk.Stateful
import OpenZk.WitnessProvider

set_option autoImplicit false

namespace OpenZk

open Words

abbrev Files := String → Except String Bytes

structure Process where
  processId : UInt32
  tempDir : String
  canonicalize : Files → String → Except String String
  -- Why a write fails, and what it then leaves at the path.
  writeFault : String → Bytes → Option (String × Except String Bytes)
  utf8Error : Bytes → String
  fromStr : String → Except String Json
  toStringPretty : Json → Except String String
  toVec : Json → Except String Bytes

structure Remote where
  parseUrl : String → Except String Unit
  blockByNumber : String → UInt64 → Except String (Option L2Block)
  outputAtBlock : String → UInt64 → Option Bytes32
  optimismRollupConfig : String → Except String Json
  debugChainConfig : String → Option Json
  collectWitness : SingleChainHost → Except String Bytes → Except String Bytes → Except RpcWitnessError PreimageMap
  localInputs : SingleChainHost → Except String Bytes → Except String Bytes → Bytes32 → Option Bytes
  serializePreimages : PreimageMap → Bytes
  keccak256 : Bytes → Bytes32

inductive WitnessHalt where
  | failed (error : RpcWitnessError)
  | panicked
deriving DecidableEq

namespace RollupConfig

abbrev Step (α : Type) := Stateful WitnessHalt Files α

def encode (text : String) : Bytes := text.toUTF8.data.toList

def decode (bytes : Bytes) : Option String := String.fromUTF8? bytes.toByteArray

theorem decode_encode (text : String) : decode (encode text) = some text := by
  have whole : (encode text).toByteArray = text.toUTF8 := by
    apply ByteArray.ext
    simp [encode]
  simp only [decode, whole, String.fromUTF8?]
  rw [dif_pos (by simpa using text.isValidUTF8)]
  rfl

def join (dir name : String) : String := if dir = "" ∨ dir.endsWith "/" then dir ++ name else dir ++ ("/" ++ name)

def rollupTempPath (p : Process) : String := join p.tempDir s!"open-zk-rollup-config-{p.processId}.json"

def l1TempPath (p : Process) : String := join p.tempDir s!"open-zk-l1-config-{p.processId}.json"

def readToString (p : Process) (files : Files) (path : String) : Except String String :=
  (files path).bind fun bytes =>
    match decode bytes with
    | some text => .ok text
    | none => .error (p.utf8Error bytes)

def fromSlice (p : Process) (bytes : Bytes) : Except String Json :=
  match decode bytes with
  | some text => p.fromStr text
  | none => .error (p.utf8Error bytes)

def reading {α : Type} (answer : Files → Except RpcWitnessError α) : Step α := fun files =>
  match answer files with
  | .ok value => .ok value files
  | .error error => .error (.failed error) files

def usablePath (p : Process) (files : Files) (path : String) : Option String :=
  match p.canonicalize files path with
  | .error _ => none
  | .ok absPath =>
      match (readToString p files absPath).bind p.fromStr with
      | .error _ => none
      | .ok _ => some absPath

def forkMappings : List (String × String) :=
  [("regolithTime", "regolith_time"), ("canyonTime", "canyon_time"), ("deltaTime", "delta_time"),
    ("ecotoneTime", "ecotone_time"), ("fjordTime", "fjord_time"), ("graniteTime", "granite_time"),
    ("holoceneTime", "holocene_time"), ("isthmusTime", "isthmus_time")]

def mergeForkTimes (chainConfig : Option Json) (rollupConfig : Json) : Except WitnessHalt Json :=
  match chainConfig with
  | none => .ok rollupConfig
  | some chainConfig =>
      match Json.fill chainConfig forkMappings rollupConfig with
      | some merged => .ok merged
      | none => .error .panicked

def noSource : String :=
  "no rollup config path or OP Node URL provided; set one via with_rollup_config() or with_op_node_url()"

def fetchRollupConfig (r : Remote) (provider : RpcWitnessProvider) : Except WitnessHalt Json :=
  match provider.opNodeUrl with
  | none => .error (.failed (.fetch noSource))
  | some opNodeUrl =>
      match r.parseUrl opNodeUrl with
      | .error reason => .error (.failed (.connection s!"invalid OP Node URL: {reason}"))
      | .ok _ =>
          match r.optimismRollupConfig opNodeUrl with
          | .error reason => .error (.failed (.fetch s!"optimism_rollupConfig RPC failed: {reason}"))
          | .ok rollupConfig =>
              match r.parseUrl provider.l2RpcUrl with
              | .error reason => .error (.failed (.connection s!"invalid L2 URL: {reason}"))
              | .ok _ => mergeForkTimes (r.debugChainConfig provider.l2RpcUrl) rollupConfig

def writeConfig (p : Process) (serialized written path : String) (config : Json) : Step String := fun files =>
  match p.toStringPretty config with
  | .error reason => .error (.failed (.serialization s!"{serialized} serialization: {reason}")) files
  | .ok text =>
      match p.writeFault path (encode text) with
      | some (reason, torn) =>
          .error (.failed (.fetch s!"failed to write {written} to {path}: {reason}")) (Function.update files path torn)
      | none => .ok path (Function.update files path (.ok (encode text)))

def ensureRollupConfig (p : Process) (r : Remote) (provider : RpcWitnessProvider) : Step String := fun files =>
  match provider.rollupConfigPath.bind (usablePath p files) with
  | some absPath => .ok absPath files
  | none =>
      match fetchRollupConfig r provider with
      | .error halt => .error halt files
      | .ok config => writeConfig p "rollup config" "rollup config" (rollupTempPath p) config files

def computeRollupConfigHash (p : Process) (r : Remote) (files : Files) (path : String) : Except RpcWitnessError Bytes32 :=
  match files path with
  | .error reason => .error (.fetch s!"failed to read rollup config at {path}: {reason}")
  | .ok contents =>
      match fromSlice p contents with
      | .error reason => .error (.fetch s!"invalid rollup config JSON: {reason}")
      | .ok value =>
          match p.toVec value with
          | .error reason => .error (.serialization s!"rollup config serialization: {reason}")
          | .ok canonical => .ok (r.keccak256 canonical)

def chainIdOf (config : Json) : UInt64 := ((config.get "l1_chain_id").bind Json.asU64).getD 1

def l1ChainId (p : Process) (files : Files) (path : String) : Except RpcWitnessError UInt64 :=
  match readToString p files path with
  | .error reason => .error (.fetch s!"re-read rollup config: {reason}")
  | .ok contents =>
      match p.fromStr contents with
      | .error reason => .error (.fetch s!"re-parse rollup config: {reason}")
      | .ok config => .ok (chainIdOf config)

def natural (value : UInt64) : Json := .number (.posInt value)

def defaultL1Config (l1ChainId : UInt64) : Json :=
  .build [("chainId", natural l1ChainId), ("homesteadBlock", natural 0), ("eip150Block", natural 0),
    ("eip155Block", natural 0), ("eip158Block", natural 0), ("byzantiumBlock", natural 0),
    ("constantinopleBlock", natural 0), ("petersburgBlock", natural 0), ("istanbulBlock", natural 0),
    ("berlinBlock", natural 0), ("londonBlock", natural 0), ("shanghaiTime", natural 0), ("cancunTime", natural 0),
    ("terminalTotalDifficulty", .string "0"), ("terminalTotalDifficultyPassed", .bool true)]

def l1Config (r : Remote) (provider : RpcWitnessProvider) (l1ChainId : UInt64) : Json :=
  (r.debugChainConfig provider.l1RpcUrl).getD (defaultL1Config l1ChainId)

def ensureL1Config (p : Process) (r : Remote) (provider : RpcWitnessProvider) (l1ChainId : UInt64) : Step String :=
  fun files =>
    match r.parseUrl provider.l1RpcUrl with
    | .error reason => .error (.failed (.connection s!"invalid L1 URL: {reason}")) files
    | .ok _ => writeConfig p "l1 config" "L1 config" (l1TempPath p) (l1Config r provider l1ChainId) files

def named (files : Files) (path : Option String) : Except String Bytes :=
  match path with
  | some path => files path
  | none => .error "no config path"

def answered {α : Type} (result : EStateM.Result WitnessHalt Files α) : Except RpcWitnessError α :=
  match result with
  | .ok value _ => .ok value
  | .error (.failed error) _ => .error error
  | .error .panicked _ => .error (.serialization "panicked")

def configuredFiles (p : Process) (r : Remote) (provider : RpcWitnessProvider) (files : Files) : Files :=
  match ensureRollupConfig p r provider files with
  | .error _ after => after
  | .ok path after =>
      match l1ChainId p after path with
      | .error _ => after
      | .ok number => Stateful.left (ensureL1Config p r provider number after)

def env (p : Process) (r : Remote) (provider : RpcWitnessProvider) (files : Files) : Env where
  parseUrl := r.parseUrl
  blockByNumber := r.blockByNumber
  outputAtBlock := r.outputAtBlock
  ensureRollupConfig := answered (ensureRollupConfig p r provider files)
  computeRollupConfigHash := computeRollupConfigHash p r (Stateful.left (ensureRollupConfig p r provider files))
  l1ChainId := l1ChainId p (Stateful.left (ensureRollupConfig p r provider files))
  ensureL1Config := fun number =>
    answered (ensureL1Config p r provider number (Stateful.left (ensureRollupConfig p r provider files)))
  collectWitness := fun host => r.collectWitness host (named (configuredFiles p r provider files) host.rollupConfigPath)
    (named (configuredFiles p r provider files) host.l1ConfigPath)
  localInputs := fun host => r.localInputs host (named (configuredFiles p r provider files) host.rollupConfigPath)
    (named (configuredFiles p r provider files) host.l1ConfigPath)
  serializePreimages := r.serializePreimages
  keccak256 := r.keccak256

def preflight (p : Process) (r : Remote) (provider : RpcWitnessProvider) (request : ProofRequest) (rollupConfigPath : String)
    (files : Files) : Except RpcWitnessError (Bytes32 × Bytes32 × Bytes32 × UInt64) :=
  (computeRollupConfigHash p r files rollupConfigPath).bind fun rollupConfigHash =>
  (WitnessProvider.parseL2Url (env p r provider files) provider).bind fun _ =>
  (WitnessProvider.fetchBlock (env p r provider files) provider.l2RpcUrl "L2 start block" request.l2StartBlock).bind
    fun startBlock =>
  (WitnessProvider.fetchOutputRoot (env p r provider files) provider request.l2EndBlock).bind fun claimedL2OutputRoot =>
  (l1ChainId p files rollupConfigPath).bind fun number =>
  .ok (rollupConfigHash, startBlock.hash, claimedL2OutputRoot, number)

def collect (r : Remote) (request : ProofRequest) (host : SingleChainHost) (rollupConfigHash claimedL2OutputRoot : Bytes32)
    (files : Files) : Except RpcWitnessError RawWitness :=
  (r.collectWitness host (named files host.rollupConfigPath) (named files host.l1ConfigPath)).bind fun store =>
  .ok {
    bootInfo := BootInfo.toAbiBytes
      ⟨request.l1Head, request.l2StartOutputRoot, claimedL2OutputRoot, request.l2EndBlock, rollupConfigHash⟩
    oracleData := r.serializePreimages (WitnessProvider.injectLocal
      (r.localInputs host (named files host.rollupConfigPath) (named files host.l1ConfigPath)) store)
    blobData := [] }

def generateWitness (p : Process) (r : Remote) (provider : RpcWitnessProvider) (request : ProofRequest) : Step RawWitness := do
  let rollupConfigPath ← ensureRollupConfig p r provider
  let (rollupConfigHash, startHash, claimedL2OutputRoot, number) ←
    reading (preflight p r provider request rollupConfigPath)
  let l1ConfigPath ← ensureL1Config p r provider number
  let host := WitnessProvider.buildHostConfig provider request startHash claimedL2OutputRoot rollupConfigPath l1ConfigPath
  reading (collect r request host rollupConfigHash claimedL2OutputRoot)

end RollupConfig

end OpenZk
