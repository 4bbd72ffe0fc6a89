import OpenZk.Composition

set_option autoImplicit false

namespace OpenZk.WitnessProvider

open Words

abbrev Entry := Sigma fun _ : Bytes32 => Bytes

def Iterates (entries : List Entry) (preimages : PreimageMap) : Prop := (entries : Multiset Entry) = preimages.entries

def collect (entries : List Entry) : PreimageMap :=
  entries.foldl (fun map entry => map.insert entry.1 entry.2) ∅

def serializePreimages (toBytes : PreimageMap → Bytes) (entries : List Entry) : Bytes := toBytes (collect entries)

/-- kona-host's store during collection: a read goes to the side that the type byte of its key
names, a write always to the collected side. -/
structure SplitKeyValueStore where
  localStore : Bytes32 → Option Bytes
  remoteStore : PreimageMap

namespace SplitKeyValueStore

def get (store : SplitKeyValueStore) (key : Bytes32) : Option Bytes :=
  if key.data.head? = some PreimageKeyType.local.byte then store.localStore key else store.remoteStore.lookup key

def set (store : SplitKeyValueStore) (key : Bytes32) (value : Bytes) : SplitKeyValueStore :=
  { store with remoteStore := store.remoteStore.insert key value }

end SplitKeyValueStore

def collection (localStore : Bytes32 → Option Bytes) (writes : List Entry) : SplitKeyValueStore :=
  writes.foldl (fun store entry => store.set entry.1 entry.2) ⟨localStore, ∅⟩

def NoLocalKeys (preimages : PreimageMap) : Prop :=
  ∀ word, word.data.head? = some PreimageKeyType.local.byte → preimages.lookup word = none

def OnLocalIndices (get : Bytes32 → Option Bytes) : Prop :=
  ∀ word value, get word = some value →
    ∃ index ∈ [(1 : UInt64), 2, 3, 4, 5, 6, 7], word = (PreimageKey.newLocal index).toBytes

def answer (found : Option Bytes) : Except PreimageOracleError Bytes :=
  match found with
  | some value => .ok value
  | none => .error .keyNotFound

structure AnswersAs (store : PreimageStore) (localStore : Bytes32 → Option Bytes) (writes : List Entry) : Prop where
  words : ∀ word, store.data.lookup word = (collection localStore writes).get word
  keys : ∀ key, store.get key = answer ((collection localStore writes).get key.toBytes)
  earlier : ∀ front back, writes = front ++ back → ∀ word value, (collection localStore front).get word = some value →
    (∀ entry ∈ back, entry.1 = word → entry.2 = value) → store.data.lookup word = some value

theorem collect_lookup (entries : List Entry) (map : PreimageMap) (key : Bytes32) (distinct : entries.NodupKeys) :
    (entries.foldl (fun map entry => map.insert entry.1 entry.2) map).lookup key =
      (entries.dlookup key).or (map.lookup key) := by
  induction entries generalizing map with
  | nil => rfl
  | cons entry rest ih =>
      obtain ⟨word, value⟩ := entry
      obtain ⟨fresh, others⟩ := List.nodupKeys_cons.mp distinct
      rw [List.foldl_cons, ih _ others]
      by_cases same : key = word
      · subst same
        rw [List.dlookup_eq_none.mpr fresh, List.dlookup_cons_eq, Finmap.lookup_insert]
        rfl
      · have past : List.dlookup key (⟨word, value⟩ :: rest : List Entry) = List.dlookup key rest :=
          List.dlookup_cons_ne rest ⟨word, value⟩ same
        rw [past, Finmap.lookup_insert_of_ne _ same]

theorem collect_iterated (entries : List Entry) (preimages : PreimageMap) (iterated : Iterates entries preimages) :
    collect entries = preimages := by
  have distinct : entries.NodupKeys := by
    rw [← Multiset.coe_nodupKeys, show (entries : Multiset Entry) = preimages.entries from iterated]
    exact preimages.nodupKeys
  have same : preimages = AList.toFinmap ⟨entries, distinct⟩ := Finmap.ext iterated.symm
  apply Finmap.ext_lookup
  intro key
  rw [collect, collect_lookup entries ∅ key distinct, Finmap.lookup_empty, Option.or_none, same, Finmap.lookup_toFinmap]
  rfl

theorem kept_lookup (entries : List Entry) (map : PreimageMap) (word : Bytes32) (value : Bytes)
    (held : map.lookup word = some value) (same : ∀ entry ∈ entries, entry.1 = word → entry.2 = value) :
    (entries.foldl (fun map entry => map.insert entry.1 entry.2) map).lookup word = some value := by
  induction entries generalizing map with
  | nil => exact held
  | cons entry rest ih =>
      rw [List.foldl_cons]
      apply ih _ _ fun other member => same other (List.mem_cons_of_mem entry member)
      by_cases here : word = entry.1
      · rw [here, Finmap.lookup_insert, same entry List.mem_cons_self here.symm]
      · rw [Finmap.lookup_insert_of_ne _ here, held]

theorem set_fold (localStore : Bytes32 → Option Bytes) (map : PreimageMap) (writes : List Entry) :
    writes.foldl (fun store entry => store.set entry.1 entry.2) (⟨localStore, map⟩ : SplitKeyValueStore) =
      ⟨localStore, writes.foldl (fun map entry => map.insert entry.1 entry.2) map⟩ := by
  induction writes generalizing map with
  | nil => rfl
  | cons entry rest ih => exact ih (map.insert entry.1 entry.2)

theorem collection_eq (localStore : Bytes32 → Option Bytes) (writes : List Entry) :
    collection localStore writes = ⟨localStore, collect writes⟩ := set_fold localStore ∅ writes

theorem earlier_read (localStore : Bytes32 → Option Bytes) (front back : List Entry) (word : Bytes32) (value : Bytes)
    (read : (collection localStore front).get word = some value)
    (same : ∀ entry ∈ back, entry.1 = word → entry.2 = value) :
    (collection localStore (front ++ back)).get word = some value := by
  rw [collection_eq, SplitKeyValueStore.get] at read
  rw [collection_eq, SplitKeyValueStore.get]
  by_cases head : word.data.head? = some PreimageKeyType.local.byte
  · rw [if_pos head] at read
    rw [if_pos head]
    exact read
  · rw [if_neg head] at read
    rw [if_neg head, collect, List.foldl_append]
    exact kept_lookup back _ word value read same

theorem local_head (index : UInt64) :
    (PreimageKey.newLocal index).toBytes.data.head? = some PreimageKeyType.local.byte := rfl

theorem inject_fold_unserved (get : Bytes32 → Option Bytes) (indices : List UInt64) (preimages : PreimageMap)
    (word : Bytes32) (unserved : get word = none) :
    (indices.foldl (injectOne get) preimages).lookup word = preimages.lookup word := by
  induction indices generalizing preimages with
  | nil => rfl
  | cons index rest ih =>
      rw [List.foldl_cons, ih]
      by_cases same : word = (PreimageKey.newLocal index).toBytes
      · rw [injectOne, ← same, unserved]
      · exact inject_one_elsewhere get preimages index word same

theorem inject_local_split (get : Bytes32 → Option Bytes) (preimages : PreimageMap) (noLocal : NoLocalKeys preimages)
    (localOnly : OnLocalIndices get) (word : Bytes32) :
    (injectLocal get preimages).lookup word = SplitKeyValueStore.get ⟨get, preimages⟩ word := by
  rw [SplitKeyValueStore.get]
  by_cases head : word.data.head? = some PreimageKeyType.local.byte
  · rw [if_pos head]
    cases served : get word with
    | none =>
        rw [injectLocal, inject_fold_unserved get _ preimages word served, noLocal word head]
        exact served.symm
    | some value =>
        obtain ⟨index, member, rfl⟩ := localOnly word value served
        rw [inject_local_here get preimages index value member served]
        exact served.symm
  · rw [if_neg head]
    apply inject_fold_elsewhere
    intro index _ same
    exact head (same ▸ local_head index)

theorem generate_witness_prepared_of (env : Env) (provider : RpcWitnessProvider) (request : ProofRequest)
    (host : SingleChainHost) (boot : BootInfo) (preimages : PreimageMap)
    (prepared : prepareHost env provider request = .ok (host, boot)) (collected : env.collectWitness host = .ok preimages) :
    generateWitness env provider request =
      .ok ⟨boot.toAbiBytes, env.serializePreimages (injectLocal (env.localInputs host) preimages), []⟩ := by
  rw [generate_witness_prepared, prepared]
  simp only [Except.bind, finishWitness, collected]

/-- The guest that is handed the witness reads what the collection run read. -/
theorem witness_answers (env : Env) (provider : RpcWitnessProvider) (request : ProofRequest) (host : SingleChainHost)
    (boot : BootInfo) (preimages : PreimageMap) (writes entries : List Entry) (toBytes : PreimageMap → Bytes)
    (decode : Bytes → Option PreimageMap) (prepared : prepareHost env provider request = .ok (host, boot))
    (collected : env.collectWitness host = .ok preimages)
    (gathered : (collection (env.localInputs host) writes).remoteStore = preimages) (noLocal : NoLocalKeys preimages)
    (localOnly : OnLocalIndices (env.localInputs host))
    (iterated : Iterates entries (injectLocal (env.localInputs host) preimages))
    (serialized : env.serializePreimages (injectLocal (env.localInputs host) preimages) = serializePreimages toBytes entries)
    (rkyv : ∀ map, decode (toBytes map) = some map) :
    ∃ witness store, generateWitness env provider request = .ok witness ∧
      PreimageStore.fromRkyvBytes decode witness.oracleData = some store ∧
      AnswersAs store (env.localInputs host) writes := by
  have archived : decode (env.serializePreimages (injectLocal (env.localInputs host) preimages)) =
      some (injectLocal (env.localInputs host) preimages) := by
    rw [serialized, serializePreimages, collect_iterated entries _ iterated, rkyv]
  have final : collection (env.localInputs host) writes = ⟨env.localInputs host, preimages⟩ := by
    rw [collection_eq] at gathered ⊢
    rw [← gathered]
  have split := inject_local_split (env.localInputs host) preimages noLocal localOnly
  rw [← final] at split
  refine ⟨_, ⟨injectLocal (env.localInputs host) preimages⟩,
    generate_witness_prepared_of env provider request host boot preimages prepared collected, ?_, split, ?_, ?_⟩
  · rw [PreimageStore.fromRkyvBytes, archived, Option.map_some]
  · intro key
    rw [← split key.toBytes]
    rfl
  · intro front back parted word value read same
    rw [split, parted]
    exact earlier_read _ front back word value read same

theorem sample_no_local (number : UInt64) : NoLocalKeys (Composition.samplePreimages number) := by
  intro word head
  rw [Composition.samplePreimages, Finmap.lookup_eq_none, Finmap.mem_singleton]
  intro same
  rw [same] at head
  cases Option.some.inj head

theorem sample_on_local (host : SingleChainHost) : OnLocalIndices (Composition.sampleLocalInputs host) := by
  intro word value served
  by_cases outside : ∃ index ∈ [(1 : UInt64), 2, 3, 4, 5, 6, 7], word = (PreimageKey.newLocal index).toBytes
  · exact outside
  · have missed : ∀ index ∈ [(1 : UInt64), 2, 3, 4, 5, 6, 7], word ≠ (PreimageKey.newLocal index).toBytes :=
      fun index member same => outside ⟨index, member, same⟩
    rw [Composition.sampleLocalInputs, if_neg (missed 1 (by decide)), if_neg (missed 2 (by decide)),
      if_neg (missed 3 (by decide)), if_neg (missed 4 (by decide))] at served
    cases served

theorem sample_prepared (number : UInt64) :
    prepareHost Composition.sampleEnv Composition.sampleWorld.provider
        (Composition.documented Composition.sampleChain (Composition.sampleRequest number)) =
      .ok (Composition.sampleHost number, ⟨wordOfNat 0xaa, Composition.sampleChain.root number,
        Composition.sampleChain.root number, number, zeroWord⟩) :=
  prepare_host_of Composition.sampleEnv Composition.sampleWorld.provider
    (Composition.documented Composition.sampleChain (Composition.sampleRequest number)) "rollup.json" "l1.json" zeroWord
    (Composition.sampleChain.root number) ⟨Composition.sampleChain.hash number, zeroWord, none⟩ 1 rfl rfl rfl rfl rfl rfl rfl

def sampleWrites (number : UInt64) : List Entry :=
  [⟨(PreimageKey.new (Composition.sampleHost number).agreedL2OutputRoot .keccak256).toBytes,
    List.replicate 96 0 ++ (Composition.sampleHost number).agreedL2HeadHash.data⟩]

theorem sample_gathered (number : UInt64) (localStore : Bytes32 → Option Bytes) :
    (collection localStore (sampleWrites number)).remoteStore = Composition.samplePreimages number := rfl

theorem witness_answers_sample :
    ∃ witness store, generateWitness Composition.sampleEnv Composition.sampleWorld.provider
        (Composition.documented Composition.sampleChain (Composition.sampleRequest 1)) = .ok witness ∧
      PreimageStore.fromRkyvBytes PreimageStore.unarchive witness.oracleData = some store ∧
      AnswersAs store (Composition.sampleLocalInputs (Composition.sampleHost 1)) (sampleWrites 1) :=
  have iterated : Iterates (Composition.sampleStore 1).data.entries.toList (Composition.sampleStore 1).data :=
    Multiset.coe_toList _
  witness_answers Composition.sampleEnv Composition.sampleWorld.provider
    (Composition.documented Composition.sampleChain (Composition.sampleRequest 1)) (Composition.sampleHost 1) _
    (Composition.samplePreimages 1) (sampleWrites 1) (Composition.sampleStore 1).data.entries.toList PreimageStore.archive
    PreimageStore.unarchive (sample_prepared 1) (Composition.sample_collected 1) (sample_gathered 1 _) (sample_no_local 1)
    (sample_on_local _) iterated (congrArg PreimageStore.archive (collect_iterated _ _ iterated).symm)
    PreimageStore.unarchive_archive

end OpenZk.WitnessProvider
