import OpenZk.ConfigBinding

set_option autoImplicit false

namespace OpenZk.RollupConfig

open Words

section Refinement

variable (p : Process) (r : Remote) (provider : RpcWitnessProvider) (request : ProofRequest) (files : Files)

theorem answered_reading {α β : Type} (answer : Files → Except RpcWitnessError α) (next : α → Step β) (at_ : Files) :
    answered ((reading answer >>= next) at_) = (answer at_).bind fun value => answered (next value at_) := by
  cases found : answer at_ with
  | error error =>
      have failed : reading answer at_ = .error (.failed error) at_ := by simp only [reading, found]
      rw [Stateful.bind_failed.mpr (.inl failed)]
      rfl
  | ok value =>
      rw [Stateful.bind_continues ((reading_ok answer at_ at_ value).mpr ⟨found, rfl⟩)]
      rfl

theorem answered_read {α : Type} (answer : Files → Except RpcWitnessError α) (at_ : Files) :
    answered (reading answer at_) = answer at_ := by
  cases found : answer at_ <;> simp only [reading, found, answered]

theorem configured_files_of (path : String) (after : Files) (number : UInt64)
    (ensured : ensureRollupConfig p r provider files = .ok path after) (chainId : l1ChainId p after path = .ok number) :
    configuredFiles p r provider files = Stateful.left (ensureL1Config p r provider number after) := by
  simp only [configuredFiles, ensured, chainId]

/-- The provider over the files is the provider whose surroundings answer what the files hold once
they are configured. -/
theorem generate_witness_refines :
    answered (generateWitness p r provider request files) =
      WitnessProvider.generateWitness (env p r provider files) provider request := by
  cases ensured : ensureRollupConfig p r provider files with
  | error halt after =>
      rw [generateWitness, Stateful.bind_failed.mpr (.inl ensured)]
      cases halt <;> simp [WitnessProvider.generateWitness, env, ensured, answered, Except.bind]
  | ok path after =>
      have after_files : Stateful.left (ensureRollupConfig p r provider files) = after := by rw [ensured]; rfl
      have configured : (env p r provider files).ensureRollupConfig = .ok path := by simp only [env, ensured, answered]
      have hashes : (env p r provider files).computeRollupConfigHash path = computeRollupConfigHash p r after path := by
        simp only [env, after_files]
      have identifies : (env p r provider files).l1ChainId path = l1ChainId p after path := by
        simp only [env, after_files]
      have configures (number : UInt64) :
          (env p r provider files).ensureL1Config number = answered (ensureL1Config p r provider number after) := by
        simp only [env, after_files]
      rw [generateWitness, Stateful.bind_continues ensured, answered_reading, preflight, WitnessProvider.generateWitness,
        configured]
      simp only [WitnessProvider.except_bind_assoc]
      rw [Except.bind, hashes, identifies]
      refine congrArg (Except.bind _) (funext fun hash => ?_)
      refine congrArg (Except.bind _) (funext fun _ => ?_)
      refine congrArg (Except.bind _) (funext fun startBlock => ?_)
      refine congrArg (Except.bind _) (funext fun claimed => ?_)
      cases chainId : l1ChainId p after path with
      | error error => rfl
      | ok number =>
          have files_left := configured_files_of p r provider files path after number ensured chainId
          change answered ((ensureL1Config p r provider number >>= _) after) =
            ((env p r provider files).ensureL1Config number).bind _
          rw [configures]
          cases ensuredL1 : ensureL1Config p r provider number after with
          | error halt last =>
              rw [Stateful.bind_failed.mpr (.inl ensuredL1)]
              cases halt <;> rfl
          | ok l1Path last =>
              rw [ensuredL1] at files_left
              rw [Stateful.bind_continues ensuredL1, answered_read]
              simp only [collect, env, files_left]
              rfl

end Refinement

section Independence

variable (p : Process) (r : Remote) (provider : RpcWitnessProvider) (request : ProofRequest)

def Shares (paths : List String) (files other : Files) : Prop := ∀ path ∈ paths, other path = files path

def anyway (_ _ : Files) : Prop := True

def Sees (files other : Files) : Prop :=
  provider.rollupConfigPath.bind (usablePath p other) = provider.rollupConfigPath.bind (usablePath p files) ∧
    ∀ path, provider.rollupConfigPath.bind (usablePath p files) = some path → other path = files path

theorem shares_update (paths : List String) (files other : Files) (path : String) (contents : Except String Bytes)
    (shares : Shares paths files other) :
    Shares (path :: paths) (Function.update files path contents) (Function.update other path contents) := by
  intro read listed
  by_cases same : read = path
  · rw [same, Function.update_self, Function.update_self]
  · rw [Function.update_of_ne same, Function.update_of_ne same]
    exact shares read ((List.mem_cons.mp listed).resolve_left same)

theorem write_config_coupled (paths : List String) (serialized written path : String) (config : Json) :
    Stateful.Coupled (Shares paths) (writeConfig p serialized written path config) (fun target => Shares (target :: paths)) anyway := by
  intro files other shares
  unfold writeConfig
  split
  · exact .error _ _ _ trivial
  · split
    · exact .error _ _ _ trivial
    · exact .ok _ _ _ (shares_update paths files other path _ shares)

theorem reading_coupled {α : Type} {before : Files → Files → Prop} (answer : Files → Except RpcWitnessError α)
    (same : ∀ files other, before files other → answer other = answer files) :
    Stateful.Coupled before (reading answer) (fun _ => before) anyway := by
  intro files other related
  unfold reading
  rw [same files other related]
  split
  · exact .ok _ _ _ related
  · exact .error _ _ _ trivial

theorem ensure_rollup_config_coupled :
    Stateful.Coupled (Sees p provider) (ensureRollupConfig p r provider) (fun path => Shares [path]) anyway := by
  rintro files other ⟨usable, stands⟩
  unfold ensureRollupConfig
  rw [usable]
  cases found : provider.rollupConfigPath.bind (usablePath p files) with
  | some path =>
      refine .ok _ _ _ ?_
      intro read listed
      rw [List.mem_singleton.mp listed]
      exact stands path found
  | none =>
      cases fetchRollupConfig r provider with
      | error halt => exact .error _ _ _ trivial
      | ok config =>
          exact write_config_coupled p [] _ _ _ config files other (fun _ listed => absurd listed List.not_mem_nil)

theorem ensure_l1_config_coupled (paths : List String) (number : UInt64) :
    Stateful.Coupled (Shares paths) (ensureL1Config p r provider number) (fun path => Shares (path :: paths)) anyway := by
  intro files other shares
  unfold ensureL1Config
  split
  · exact .error _ _ _ trivial
  · exact write_config_coupled p paths _ _ _ _ files other shares

theorem preflight_same (path : String) (files other : Files) (shares : Shares [path] files other) :
    preflight p r provider request path other = preflight p r provider request path files := by
  have same := shares path List.mem_cons_self
  simp only [preflight, computeRollupConfigHash, l1ChainId, readToString, same]
  rfl

theorem collect_same (host : SingleChainHost) (hash claimed : Bytes32) (rollupPath l1Path : String)
    (rollup : host.rollupConfigPath = some rollupPath) (l1 : host.l1ConfigPath = some l1Path) (files other : Files)
    (shares : Shares [l1Path, rollupPath] files other) :
    collect r request host hash claimed other = collect r request host hash claimed files := by
  have same (path : String) (listed : path ∈ [l1Path, rollupPath]) : named other (some path) = named files (some path) :=
    shares path listed
  simp only [collect, rollup, l1, same rollupPath (by simp), same l1Path (by simp)]

theorem generate_witness_coupled :
    Stateful.Coupled (Sees p provider) (generateWitness p r provider request) (fun _ => anyway) anyway := by
  refine Stateful.coupled_bind (ensure_rollup_config_coupled p r provider) fun path => ?_
  refine Stateful.coupled_bind (reading_coupled _ fun files other => preflight_same p r provider request path files other) ?_
  rintro ⟨hash, startHash, claimed, number⟩
  refine Stateful.coupled_bind (ensure_l1_config_coupled p r provider [path] number) fun l1Path => ?_
  intro files other shares
  have ends := reading_coupled _ (fun files other =>
    collect_same r request (WitnessProvider.buildHostConfig provider request startHash claimed path l1Path) hash claimed path
      l1Path rfl rfl files other) files other shares
  generalize reading _ files = one at ends ⊢
  generalize reading _ other = two at ends ⊢
  cases ends with
  | ok witness after beside _ => exact .ok _ _ _ trivial
  | error halt after beside _ => exact .error _ _ _ trivial

def Settled (files : Files) : Prop :=
  ∀ given, provider.rollupConfigPath = some given →
    (∀ other, Framed p files other → p.canonicalize other given = p.canonicalize files given) ∧
    ∀ path, p.canonicalize files given = .ok path → path ≠ rollupTempPath p ∧ path ≠ l1TempPath p

theorem settled_sees (files other : Files) (settled : Settled p provider files) (framed : Framed p files other) :
    Sees p provider files other := by
  cases configured : provider.rollupConfigPath with
  | none => exact ⟨by simp [configured], by simp [configured]⟩
  | some given =>
      obtain ⟨found, elsewhere⟩ := settled given configured
      cases resolved : p.canonicalize files given with
      | error reason =>
          have missing (at_ : Files) (resolves : p.canonicalize at_ given = .error reason) : usablePath p at_ given = none := by
            simp only [usablePath, resolves]
          simp [Sees, configured, missing files resolved, missing other ((found other framed).trans resolved)]
      | ok path =>
          have same : other path = files path := framed path (elsewhere path resolved).1 (elsewhere path resolved).2
          have usable : usablePath p other given = usablePath p files given := by
            simp only [usablePath, found other framed, resolved, readToString, same]
          refine ⟨by simp [configured, usable], ?_⟩
          intro read reads
          rw [configured, Option.bind_some] at reads
          have resolves := (usable_path_some p files given read reads).1
          rw [resolved] at resolves
          cases resolves
          exact same

end Independence

structure Call where
  remote : Remote
  provider : RpcWitnessProvider
  request : ProofRequest

def Call.program (p : Process) (call : Call) : Step RawWitness := generateWitness p call.remote call.provider call.request

/-- Calls of one process share the names of their temporary files and still do not see each other:
each ends as it would have ended alone. -/
theorem calls_independent (p : Process) (calls : List Call) (files : Files)
    (settled : ∀ call ∈ calls, Settled p call.provider files) :
    Stateful.outcomes (calls.map (Call.program p)) files =
      calls.map fun call => Stateful.outcome (call.program p files) := by
  have apart := Stateful.outcomes_independent (framed_trans p) (calls.map (Call.program p)) files files (framed_refl p files)
    (fun program listed => by
      obtain ⟨call, _, rfl⟩ := List.mem_map.mp listed
      exact generate_witness_leaves p call.remote call.provider call.request)
    (fun program listed other framed => by
      obtain ⟨call, called, rfl⟩ := List.mem_map.mp listed
      have sees := settled_sees p call.provider files other (settled call called) framed
      exact Stateful.alike_outcome (generate_witness_coupled p call.remote call.provider call.request files other sees))
  rw [apart, List.map_map]
  rfl

def etcProcess : Process := { sampleProcess with canonicalize := fun _ given => .ok ("/etc/" ++ given) }

def etcFiles : Files := Function.update noFiles "/etc/rollup.json" (.ok (encode "\x7b\x7d"))

def sampleCalls : List Call :=
  [⟨sampleRemote, { sampleProvider with rollupConfigPath := some "rollup.json" }, sampleRequest⟩,
    ⟨sampleRemote, sampleProvider, sampleRequest⟩]

theorem sample_settled : ∀ call ∈ sampleCalls, Settled etcProcess call.provider etcFiles := by
  intro call listed given configured
  have only : given = "rollup.json" := by
    rcases List.mem_pair.mp listed with rfl | rfl
    · exact (Option.some.inj configured).symm
    · cases configured
  subst only
  refine ⟨fun _ _ => rfl, ?_⟩
  intro path resolved
  cases resolved
  constructor <;> intro same
  · have letters := congrArg (fun text => (text.toList.drop 1).head?) same
    rw [rollupTempPath, join, etcProcess, sampleProcess] at letters
    split at letters <;> simp at letters
  · have letters := congrArg (fun text => (text.toList.drop 1).head?) same
    rw [l1TempPath, join, etcProcess, sampleProcess] at letters
    split at letters <;> simp at letters

theorem calls_independent_sample :
    Stateful.outcomes (sampleCalls.map (Call.program etcProcess)) etcFiles =
      sampleCalls.map fun call => Stateful.outcome (call.program etcProcess etcFiles) :=
  calls_independent etcProcess sampleCalls etcFiles sample_settled

end OpenZk.RollupConfig
