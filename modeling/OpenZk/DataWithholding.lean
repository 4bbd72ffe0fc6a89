import OpenZk.DataSource

set_option autoImplicit false

namespace OpenZk

open Words

abbrev Source (ε : Type) :=
  Except ε (List TxEnvelope) → DataSource.State → Except (PipelineError ε) Bytes × DataSource.State

def DaLayer.source {ε : Type} (layer : DaLayer) (keccak256 : Bytes → Bytes32) (oracle : PreimageOracle)
    (batcher : Address) : Source ε :=
  match layer with
  | .celestia => fun answer s => CelestiaDataSource.next keccak256 oracle answer batcher s
  | .eigenDa => fun answer s => EigenDADataSource.next keccak256 oracle answer batcher s

namespace DataSource

section

variable {ε : Type}

theorem source_next (layer : DaLayer) (keccak256 : Bytes → Bytes32) (oracle : PreimageOracle)
    (answer : Except ε (List TxEnvelope)) (batcher : Address) (s : State) :
    layer.source keccak256 oracle batcher answer s = next layer keccak256 oracle answer batcher s := by
  cases layer with
  | celestia => rfl
  | eigenDa => rfl

def Answers (block : List TxEnvelope) (answer : Except ε (List TxEnvelope)) : Prop :=
  ∀ txs, answer = .ok txs → txs = block

inductive Drain (source : Source ε) (block : List TxEnvelope) : State → List Bytes → Prop where
  | done (answer : Except ε (List TxEnvelope)) (s after : State) (answers : Answers block answer)
      (call : source answer s = (.error .eof, after)) : Drain source block s []
  | batch (answer : Except ε (List TxEnvelope)) (s after : State) (first : Bytes) (rest : List Bytes)
      (answers : Answers block answer) (call : source answer s = (.ok first, after))
      (drained : Drain source block after rest) : Drain source block s (first :: rest)

theorem drain_opened (layer : DaLayer) (keccak256 : Bytes → Bytes32) (oracle : PreimageOracle)
    (batcher inbox : Address) (block : List TxEnvelope) (batchData : List Bytes) :
    Drain (layer.source keccak256 oracle batcher : Source ε) block ⟨inbox, batchData, true⟩ batchData := by
  induction batchData with
  | nil =>
      apply Drain.done (.ok block) _ ⟨inbox, [], true⟩
      · intro txs impossible
        cases impossible
        rfl
      · rw [source_next, next_opened]
  | cons first rest ih =>
      apply Drain.batch (.ok block) _ ⟨inbox, rest, true⟩ first rest
      · intro txs impossible
        cases impossible
        rfl
      · rw [source_next, next_opened]
      · exact ih

theorem drain_opened_eq (layer : DaLayer) (keccak256 : Bytes → Bytes32) (oracle : PreimageOracle)
    (batcher inbox : Address) (block : List TxEnvelope) (batchData batches : List Bytes)
    (drained : Drain (layer.source keccak256 oracle batcher : Source ε) block ⟨inbox, batchData, true⟩ batches) :
    batches = batchData := by
  induction batchData generalizing batches with
  | nil =>
      cases drained with
      | done answer s after answers call => rfl
      | batch answer s after first rest answers call drained =>
          rw [source_next, next_opened] at call
          cases call
  | cons head tail ih =>
      cases drained with
      | done answer s after answers call =>
          rw [source_next, next_opened] at call
          cases call
      | batch answer s after first rest answers call drained =>
          rw [source_next, next_opened] at call
          cases call
          rw [ih rest drained]

theorem answers_block (block : List TxEnvelope) : Answers block (.ok block : Except ε (List TxEnvelope)) := by
  intro txs impossible
  cases impossible
  rfl

theorem first_call (layer : DaLayer) (keccak256 : Bytes → Bytes32) (oracle : PreimageOracle)
    (answer : Except ε (List TxEnvelope)) (batcher inbox : Address) (block : List TxEnvelope)
    (answers : Answers block answer) :
    (∃ reason, layer.source keccak256 oracle batcher answer (new inbox) =
      (.error (.provider reason), new inbox)) ∨
    layer.source keccak256 oracle batcher answer (new inbox) =
      layer.source keccak256 oracle batcher answer
        ⟨inbox, delivered layer keccak256 oracle inbox batcher block, true⟩ := by
  rw [source_next, source_next]
  cases answer with
  | error reason => exact .inl ⟨reason, next_new_error layer keccak256 oracle reason batcher inbox⟩
  | ok txs =>
      obtain rfl := answers txs rfl
      exact .inr (next_new_ok layer keccak256 oracle txs batcher inbox)

theorem drain_new_iff (layer : DaLayer) (keccak256 : Bytes → Bytes32) (oracle : PreimageOracle)
    (batcher inbox : Address) (block : List TxEnvelope) (batches : List Bytes) :
    Drain (layer.source keccak256 oracle batcher : Source ε) block (new inbox) batches ↔
      batches = delivered layer keccak256 oracle inbox batcher block := by
  constructor
  · intro drained
    apply drain_opened_eq (ε := ε) layer keccak256 oracle batcher inbox block
    cases drained with
    | done answer s after answers call =>
        rcases first_call layer keccak256 oracle answer batcher inbox block answers with ⟨reason, failed⟩ | opened
        · rw [failed] at call
          cases call
        · exact .done answer _ after answers (opened ▸ call)
    | batch answer s after first rest answers call drained =>
        rcases first_call layer keccak256 oracle answer batcher inbox block answers with ⟨reason, failed⟩ | opened
        · rw [failed] at call
          cases call
        · exact .batch answer _ after first rest answers (opened ▸ call) drained
  · intro equal
    subst equal
    cases batchData : delivered layer keccak256 oracle inbox batcher block with
    | nil =>
        apply Drain.done (.ok block) _ ⟨inbox, [], true⟩ (answers_block block)
        rw [source_next, next_new_ok, batchData, next_opened]
    | cons first rest =>
        apply Drain.batch (.ok block) _ ⟨inbox, rest, true⟩ first rest (answers_block block)
        · rw [source_next, next_new_ok, batchData, next_opened]
        · exact drain_opened layer keccak256 oracle batcher inbox block rest

end

def Consistent (left right : PreimageOracle) : Prop :=
  ∀ key leftValue rightValue, left key = .ok leftValue → right key = .ok rightValue → leftValue = rightValue

def Holds (keccak256 : Bytes → Bytes32) (oracle : PreimageOracle) (commitment : Bytes) : Prop :=
  ∃ value, oracle (PreimageKey.new (keccak256 commitment) .keccak256) = .ok value

structure PostsCommitment (layer : DaLayer) (inbox batcher : Address) (tx : TxEnvelope) (commitment : Bytes) :
    Prop where
  readable : tx.txType = .legacy ∨ tx.txType = .eip2930 ∨ tx.txType = .eip1559
  to_inbox : tx.recipient = some inbox
  from_batcher : tx.signer = some batcher
  marked : tx.input = layer.commitmentPrefix :: commitment ∨ tx.input = genericCommitmentPrefix :: commitment

def SameBatches (ε : Type) (layer : DaLayer) (keccak256 : Bytes → Bytes32) (batcher inbox : Address)
    (block : List TxEnvelope) (left right : PreimageOracle) : Prop :=
  ∀ leftBatches rightBatches,
    Drain (layer.source keccak256 left batcher : Source ε) block (new inbox) leftBatches →
    Drain (layer.source keccak256 right batcher : Source ε) block (new inbox) rightBatches →
    leftBatches = rightBatches

theorem reads_type_iff (txType : TxType) :
    readsType txType = true ↔ txType = .legacy ∨ txType = .eip2930 ∨ txType = .eip1559 := by
  cases txType <;> simp [readsType]

theorem filter_passed {bad : Prop} [Decidable bad] {rest : Posting} {commitment : Bytes}
    (posted : (if bad then .ignored else rest) = Posting.commitment commitment) :
    ¬ bad ∧ rest = .commitment commitment := by
  by_cases filtered : bad
  · rw [if_pos filtered] at posted
    cases posted
  · rw [if_neg filtered] at posted
    exact ⟨filtered, posted⟩

theorem posting_commitment_iff (layer : DaLayer) (inbox batcher : Address) (tx : TxEnvelope) (commitment : Bytes) :
    posting layer inbox batcher tx = .commitment commitment ↔
      PostsCommitment layer inbox batcher tx commitment := by
  constructor
  · intro posted
    obtain ⟨readable, posted⟩ := filter_passed posted
    obtain ⟨to_inbox, posted⟩ := filter_passed posted
    obtain ⟨from_batcher, posted⟩ := filter_passed posted
    have readType := (reads_type_iff tx.txType).mp (by simpa using readable)
    cases input : tx.input with
    | nil =>
        rw [input] at posted
        cases posted
    | cons first rest =>
        simp only [input] at posted
        by_cases marked : first = layer.commitmentPrefix ∨ first = genericCommitmentPrefix
        · rw [if_pos marked] at posted
          cases posted
          refine ⟨readType, not_not.mp to_inbox, not_not.mp from_batcher, ?_⟩
          rcases marked with rfl | rfl
          · exact .inl input
          · exact .inr input
        · rw [if_neg marked] at posted
          cases posted
  · intro posts
    rw [posting, (reads_type_iff _).mpr posts.readable, posts.to_inbox, posts.from_batcher]
    rcases posts.marked with input | input
    · simp [input]
    · simp [input]

theorem same_batches_iff (ε : Type) (layer : DaLayer) (keccak256 : Bytes → Bytes32) (batcher inbox : Address)
    (block : List TxEnvelope) (left right : PreimageOracle) :
    SameBatches ε layer keccak256 batcher inbox block left right ↔
      delivered layer keccak256 left inbox batcher block = delivered layer keccak256 right inbox batcher block := by
  constructor
  · intro same
    exact same _ _ ((drain_new_iff ..).mpr rfl) ((drain_new_iff ..).mpr rfl)
  · intro equal leftBatches rightBatches leftDrained rightDrained
    rw [(drain_new_iff ..).mp leftDrained, (drain_new_iff ..).mp rightDrained, equal]

theorem resolve_commitment_iff (keccak256 : Bytes → Bytes32) (oracle : PreimageOracle) (commitment value : Bytes) :
    resolveCommitment keccak256 oracle commitment = some value ↔
      oracle (PreimageKey.new (keccak256 commitment) .keccak256) = .ok value := by
  rw [resolveCommitment]
  cases oracle (PreimageKey.new (keccak256 commitment) .keccak256) with
  | error reason => simp [Except.toOption]
  | ok found => simp [Except.toOption]

theorem resolve_commitment_none_iff (keccak256 : Bytes → Bytes32) (oracle : PreimageOracle) (commitment : Bytes) :
    resolveCommitment keccak256 oracle commitment = none ↔ ¬ Holds keccak256 oracle commitment := by
  rw [Option.eq_none_iff_forall_ne_some, Holds, not_exists]
  exact forall_congr' fun value => not_congr (resolve_commitment_iff keccak256 oracle commitment value)

theorem deliver_commitment (layer : DaLayer) (keccak256 : Bytes → Bytes32) (oracle : PreimageOracle)
    (inbox batcher : Address) (tx : TxEnvelope) (commitment : Bytes)
    (posts : PostsCommitment layer inbox batcher tx commitment) :
    deliver layer keccak256 oracle inbox batcher tx = resolveCommitment keccak256 oracle commitment := by
  rw [deliver, (posting_commitment_iff layer inbox batcher tx commitment).mpr posts]

theorem deliver_eq_iff (layer : DaLayer) (keccak256 : Bytes → Bytes32) (inbox batcher : Address) (tx : TxEnvelope)
    (left right : PreimageOracle) (consistent : Consistent left right) :
    deliver layer keccak256 left inbox batcher tx = deliver layer keccak256 right inbox batcher tx ↔
      ∀ commitment, PostsCommitment layer inbox batcher tx commitment →
        (Holds keccak256 left commitment ↔ Holds keccak256 right commitment) := by
  constructor
  · intro equal commitment posts
    rw [deliver_commitment layer keccak256 left inbox batcher tx commitment posts,
      deliver_commitment layer keccak256 right inbox batcher tx commitment posts] at equal
    rw [← not_iff_not, ← resolve_commitment_none_iff, ← resolve_commitment_none_iff, equal]
  · intro held
    cases posted : posting layer inbox batcher tx with
    | ignored => rw [deliver, deliver, posted]
    | calldata bytes => rw [deliver, deliver, posted]
    | commitment commitment =>
        have posts := (posting_commitment_iff layer inbox batcher tx commitment).mp posted
        rw [deliver_commitment layer keccak256 left inbox batcher tx commitment posts,
          deliver_commitment layer keccak256 right inbox batcher tx commitment posts]
        by_cases holds : Holds keccak256 left commitment
        · obtain ⟨leftValue, leftRead⟩ := holds
          obtain ⟨rightValue, rightRead⟩ := (held commitment posts).mp ⟨leftValue, leftRead⟩
          obtain rfl := consistent _ leftValue rightValue leftRead rightRead
          rw [(resolve_commitment_iff ..).mpr leftRead, (resolve_commitment_iff ..).mpr rightRead]
        · rw [(resolve_commitment_none_iff ..).mpr holds,
            (resolve_commitment_none_iff ..).mpr (fun right => holds ((held commitment posts).mpr right))]

def Covers (larger smaller : PreimageOracle) : Prop :=
  ∀ key value, smaller key = .ok value → larger key = .ok value

def SameHeld (layer : DaLayer) (keccak256 : Bytes → Bytes32) (inbox batcher : Address) (block : List TxEnvelope)
    (left right : PreimageOracle) : Prop :=
  ∀ tx ∈ block, ∀ commitment, PostsCommitment layer inbox batcher tx commitment →
    (Holds keccak256 left commitment ↔ Holds keccak256 right commitment)

theorem covers_consistent (larger smaller : PreimageOracle) (covers : Covers larger smaller) :
    Consistent larger smaller := by
  intro key leftValue rightValue leftRead rightRead
  rw [covers key rightValue rightRead] at leftRead
  exact (Except.ok.inj leftRead).symm

theorem filter_map_length_le {α β : Type} (smaller larger : α → Option β) (items : List α)
    (covers : ∀ item ∈ items, ∀ value, smaller item = some value → larger item = some value) :
    (items.filterMap smaller).length ≤ (items.filterMap larger).length := by
  induction items with
  | nil => simp
  | cons item rest ih =>
      have tail := ih (fun other member => covers other (List.mem_cons_of_mem item member))
      rw [List.filterMap_cons, List.filterMap_cons]
      cases small : smaller item with
      | none =>
          cases larger item with
          | none => exact tail
          | some value => exact Nat.le_succ_of_le tail
      | some value =>
          rw [covers item List.mem_cons_self value small]
          exact Nat.succ_le_succ tail

theorem filter_map_eq_iff {α β : Type} (smaller larger : α → Option β) (items : List α)
    (covers : ∀ item ∈ items, ∀ value, smaller item = some value → larger item = some value) :
    items.filterMap larger = items.filterMap smaller ↔ ∀ item ∈ items, larger item = smaller item := by
  induction items with
  | nil => simp
  | cons item rest ih =>
      have tailCovers : ∀ other ∈ rest, ∀ value, smaller other = some value → larger other = some value :=
        fun other member => covers other (List.mem_cons_of_mem item member)
      have shorter := filter_map_length_le smaller larger rest tailCovers
      rw [List.forall_mem_cons, ← ih tailCovers, List.filterMap_cons, List.filterMap_cons]
      cases small : smaller item with
      | none =>
          cases larger item with
          | none => simp
          | some value =>
              have longer : value :: rest.filterMap larger ≠ rest.filterMap smaller := by
                intro equal
                have lengths := congrArg List.length equal
                rw [List.length_cons] at lengths
                omega
              simpa using longer
      | some value =>
          rw [covers item List.mem_cons_self value small]
          simp

theorem deliver_covers (layer : DaLayer) (keccak256 : Bytes → Bytes32) (inbox batcher : Address)
    (larger smaller : PreimageOracle) (covers : Covers larger smaller) (tx : TxEnvelope) (value : Bytes)
    (delivers : deliver layer keccak256 smaller inbox batcher tx = some value) :
    deliver layer keccak256 larger inbox batcher tx = some value := by
  rw [deliver] at delivers ⊢
  cases posted : posting layer inbox batcher tx with
  | ignored =>
      rw [posted] at delivers
      cases delivers
  | calldata bytes =>
      rw [posted] at delivers
      exact delivers
  | commitment bytes =>
      rw [posted] at delivers
      exact (resolve_commitment_iff ..).mpr (covers _ value ((resolve_commitment_iff ..).mp delivers))

theorem same_held_delivers (layer : DaLayer) (keccak256 : Bytes → Bytes32) (inbox batcher : Address)
    (block : List TxEnvelope) (left right : PreimageOracle) (consistent : Consistent left right)
    (held : SameHeld layer keccak256 inbox batcher block left right) :
    delivered layer keccak256 left inbox batcher block = delivered layer keccak256 right inbox batcher block := by
  apply List.filterMap_congr
  intro tx member
  exact (deliver_eq_iff layer keccak256 inbox batcher tx left right consistent).mpr (held tx member)

theorem covered_delivers_iff (layer : DaLayer) (keccak256 : Bytes → Bytes32) (inbox batcher : Address)
    (block : List TxEnvelope) (larger smaller : PreimageOracle) (covers : Covers larger smaller) :
    delivered layer keccak256 larger inbox batcher block = delivered layer keccak256 smaller inbox batcher block ↔
      SameHeld layer keccak256 inbox batcher block larger smaller := by
  rw [delivered, delivered, filter_map_eq_iff _ _ block
    (fun tx _ value => deliver_covers layer keccak256 inbox batcher larger smaller covers tx value)]
  apply forall₂_congr
  intro tx member
  exact deliver_eq_iff layer keccak256 inbox batcher tx larger smaller (covers_consistent larger smaller covers)

def holdsNothing : PreimageOracle := fun _ => .error .keyNotFound

def holdsEverything : PreimageOracle := fun _ => .ok []

theorem everything_covers_nothing : Covers holdsEverything holdsNothing := by
  intro key value read
  cases read

/-- A host that leaves out a posted preimage takes its batch out of the derived chain and no drain
fails for it: only a block that posts no commitment is safe. -/
theorem withholding_harmless_iff (ε : Type) (layer : DaLayer) (keccak256 : Bytes → Bytes32) (inbox batcher : Address)
    (block : List TxEnvelope) :
    ((∀ left right, Consistent left right → SameBatches ε layer keccak256 batcher inbox block left right) ↔
      ∀ tx ∈ block, ∀ commitment, ¬ PostsCommitment layer inbox batcher tx commitment) ∧
    (∀ left right, Consistent left right → SameHeld layer keccak256 inbox batcher block left right →
      SameBatches ε layer keccak256 batcher inbox block left right) ∧
    (∀ larger smaller, Covers larger smaller →
      (SameBatches ε layer keccak256 batcher inbox block larger smaller ↔
        SameHeld layer keccak256 inbox batcher block larger smaller)) := by
  have same_held : ∀ left right, Consistent left right → SameHeld layer keccak256 inbox batcher block left right →
      SameBatches ε layer keccak256 batcher inbox block left right :=
    fun left right consistent held =>
      (same_batches_iff ..).mpr (same_held_delivers layer keccak256 inbox batcher block left right consistent held)
  have covered : ∀ larger smaller, Covers larger smaller →
      (SameBatches ε layer keccak256 batcher inbox block larger smaller ↔
        SameHeld layer keccak256 inbox batcher block larger smaller) :=
    fun larger smaller covers =>
      (same_batches_iff ..).trans (covered_delivers_iff layer keccak256 inbox batcher block larger smaller covers)
  refine ⟨⟨?_, ?_⟩, same_held, covered⟩
  · intro always tx member commitment posts
    have same := always holdsEverything holdsNothing (covers_consistent _ _ everything_covers_nothing)
    have held := (covered _ _ everything_covers_nothing).mp same tx member commitment posts
    obtain ⟨value, read⟩ := held.mp ⟨[], rfl⟩
    cases read
  · intro unposted left right consistent
    apply same_held left right consistent
    intro tx member commitment posts
    exact absurd posts (unposted tx member commitment)

def legacyTx (inbox batcher : Address) (input : Bytes) : TxEnvelope := ⟨.legacy, some inbox, input, some batcher⟩

theorem withholding_harmless_sample :
    SameBatches Unit .eigenDa PreimageStore.sampleKeccak256 2 1 [legacyTx 1 2 [0x01, 0xaa]]
      holdsEverything holdsNothing := by
  apply ((withholding_harmless_iff Unit .eigenDa PreimageStore.sampleKeccak256 1 2
    [legacyTx 1 2 [0x01, 0xaa]]).2.2 _ _ everything_covers_nothing).mpr
  intro tx member commitment posts
  obtain rfl := List.mem_singleton.mp member
  rcases posts.marked with marked | marked
  · cases marked
  · cases marked

def oneDigest : Bytes32 := wordOfNat 0x5fe7f977e71dba2ea1a68e21057beebb9be2ac30c6410aa38d4f3fbe41dcffd2

def oneKeccak256 (bytes : Bytes) : Bytes32 := if bytes = [0x01] then oneDigest else zeroWord

def emptyStore : PreimageStore := ⟨∅⟩

def blobStore : PreimageStore := ⟨Finmap.singleton (PreimageKey.new oneDigest .keccak256).toBytes [0xaa]⟩

theorem one_posted (layer : DaLayer) :
    PostsCommitment layer 1 2 (legacyTx 1 2 [genericCommitmentPrefix, 0x01]) [0x01] :=
  ⟨.inl rfl, rfl, rfl, .inr rfl⟩

theorem blob_store_covers_empty : Covers blobStore.get emptyStore.get := by
  intro key value read
  rw [PreimageStore.get_ok_iff, emptyStore, Finmap.lookup_empty] at read
  cases read

theorem withheld_batch_dropped :
    Consistent blobStore.get emptyStore.get ∧
      ∀ layer : DaLayer,
        Drain (layer.source oneKeccak256 blobStore.get 2 : Source Unit)
          [legacyTx 1 2 [genericCommitmentPrefix, 0x01]] (new 1) [[0xaa]] ∧
        Drain (layer.source oneKeccak256 emptyStore.get 2 : Source Unit)
          [legacyTx 1 2 [genericCommitmentPrefix, 0x01]] (new 1) [] := by
  refine ⟨covers_consistent _ _ blob_store_covers_empty, fun layer => ⟨?_, ?_⟩⟩
  · have held : blobStore.get (PreimageKey.new (oneKeccak256 [0x01]) .keccak256) = .ok [0xaa] := by
      rw [PreimageStore.get_ok_iff, oneKeccak256, if_pos rfl]
      exact Finmap.lookup_singleton_eq
    rw [drain_new_iff, delivered, List.filterMap_cons, deliver_commitment _ _ _ _ _ _ _ (one_posted layer),
      (resolve_commitment_iff ..).mpr held]
    rfl
  · have missing : ¬ Holds oneKeccak256 emptyStore.get [0x01] := by
      intro given
      obtain ⟨value, read⟩ := given
      rw [PreimageStore.get_ok_iff, emptyStore, Finmap.lookup_empty] at read
      cases read
    rw [drain_new_iff, delivered, List.filterMap_cons, deliver_commitment _ _ _ _ _ _ _ (one_posted layer),
      (resolve_commitment_none_iff ..).mpr missing]
    rfl

end DataSource

end OpenZk
