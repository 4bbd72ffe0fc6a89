import OpenZk.Words

set_option autoImplicit false

namespace OpenZk

open Words

structure StateTransitionJournal where
  l1Head : Bytes32
  l2PreRoot : Bytes32
  l2PostRoot : Bytes32
  l2BlockNumber : UInt64
  rollupConfigHash : Bytes32
  programId : Bytes32
deriving DecidableEq

def toAbiBytes (journal : StateTransitionJournal) : Bytes :=
  journal.l1Head.data ++ (journal.l2PreRoot.data ++ (journal.l2PostRoot.data ++
    -- The uint64 is right-aligned in its slot.
    ((wordOfNat journal.l2BlockNumber.toNat).data ++ (journal.rollupConfigHash.data ++ journal.programId.data))))

def fromAbiBytes (data : Bytes) : Option StateTransitionJournal :=
  if data.length < 192 then none
  else some {
    l1Head := pack (slice data 0 32)
    l2PreRoot := pack (slice data 32 64)
    l2PostRoot := pack (slice data 64 96)
    l2BlockNumber := wordToUInt64 (pack (slice data 96 128))
    rollupConfigHash := pack (slice data 128 160)
    programId := pack (slice data 160 192) }

def l1HeadOf (journal : Bytes) : Bytes32 := pack (slice journal 0 32)
def l2PreRootOf (journal : Bytes) : Bytes32 := pack (slice journal 32 64)
def l2PostRootOf (journal : Bytes) : Bytes32 := pack (slice journal 64 96)
def l2BlockWordOf (journal : Bytes) : Bytes32 := pack (slice journal 96 128)
def l2BlockNumberOf (journal : Bytes) : UInt64 := wordToUInt64 (l2BlockWordOf journal)
def rollupConfigHashOf (journal : Bytes) : Bytes32 := pack (slice journal 128 160)
def programIdOf (journal : Bytes) : Bytes32 := pack (slice journal 160 192)

theorem l2_block_number_low (journal : Bytes) (length : journal.length = 192) :
    (l2BlockNumberOf journal).toNat = bigEndian (slice journal 96 128) % 2 ^ 64 := by
  rw [l2BlockNumberOf, word_uint64_low, wordToNat, l2BlockWordOf, pack_slice journal 96 128 rfl (by omega)]

theorem abi_bytes_length (journal : StateTransitionJournal) : (toAbiBytes journal).length = 192 := by
  simp [toAbiBytes, Bytes32.size]

theorem abi_bytes_slot (front back : Bytes) (word : Bytes32) (start stop : Nat)
    (starts : front.length = start) (stops : start + 32 = stop) :
    pack (slice (front ++ (word.data ++ back)) start stop) = word := by
  rw [slice_middle front word.data back start stop starts (by rw [word.size]; exact stops), pack_word]

theorem l1_head_of_abi_bytes (journal : StateTransitionJournal) :
    l1HeadOf (toAbiBytes journal) = journal.l1Head :=
  abi_bytes_slot [] _ journal.l1Head 0 32 rfl rfl

theorem l2_pre_root_of_abi_bytes (journal : StateTransitionJournal) :
    l2PreRootOf (toAbiBytes journal) = journal.l2PreRoot :=
  abi_bytes_slot journal.l1Head.data _ journal.l2PreRoot 32 64 journal.l1Head.size rfl

theorem l2_post_root_of_abi_bytes (journal : StateTransitionJournal) :
    l2PostRootOf (toAbiBytes journal) = journal.l2PostRoot := by
  have slot := abi_bytes_slot (journal.l1Head.data ++ journal.l2PreRoot.data)
    ((wordOfNat journal.l2BlockNumber.toNat).data ++ (journal.rollupConfigHash.data ++ journal.programId.data))
    journal.l2PostRoot 64 96 (by simp [Bytes32.size]) rfl
  simpa only [l2PostRootOf, toAbiBytes, List.append_assoc] using slot

theorem l2_block_word_of_abi_bytes (journal : StateTransitionJournal) :
    l2BlockWordOf (toAbiBytes journal) = wordOfNat journal.l2BlockNumber.toNat := by
  have slot := abi_bytes_slot (journal.l1Head.data ++ (journal.l2PreRoot.data ++ journal.l2PostRoot.data))
    (journal.rollupConfigHash.data ++ journal.programId.data) (wordOfNat journal.l2BlockNumber.toNat) 96 128
    (by simp [Bytes32.size]) rfl
  simpa only [l2BlockWordOf, toAbiBytes, List.append_assoc] using slot

theorem l2_block_number_of_abi_bytes (journal : StateTransitionJournal) :
    l2BlockNumberOf (toAbiBytes journal) = journal.l2BlockNumber := by
  rw [l2BlockNumberOf, l2_block_word_of_abi_bytes, word_uint64]

theorem rollup_config_hash_of_abi_bytes (journal : StateTransitionJournal) :
    rollupConfigHashOf (toAbiBytes journal) = journal.rollupConfigHash := by
  have slot := abi_bytes_slot (journal.l1Head.data ++ (journal.l2PreRoot.data ++ (journal.l2PostRoot.data ++
    (wordOfNat journal.l2BlockNumber.toNat).data))) journal.programId.data journal.rollupConfigHash 128 160
    (by simp [Bytes32.size]) rfl
  simpa only [rollupConfigHashOf, toAbiBytes, List.append_assoc] using slot

theorem program_id_of_abi_bytes (journal : StateTransitionJournal) :
    programIdOf (toAbiBytes journal) = journal.programId := by
  have slot := abi_bytes_slot (journal.l1Head.data ++ (journal.l2PreRoot.data ++ (journal.l2PostRoot.data ++
    ((wordOfNat journal.l2BlockNumber.toNat).data ++ journal.rollupConfigHash.data)))) [] journal.programId 160 192
    (by simp [Bytes32.size]) rfl
  simpa only [programIdOf, toAbiBytes, List.append_assoc, List.append_nil] using slot

theorem abi_round_trip (journal : StateTransitionJournal) : fromAbiBytes (toAbiBytes journal) = some journal := by
  have long : ¬ (toAbiBytes journal).length < 192 := by
    rw [abi_bytes_length]
    decide
  rw [fromAbiBytes, if_neg long]
  have l1Head := l1_head_of_abi_bytes journal
  have preRoot := l2_pre_root_of_abi_bytes journal
  have postRoot := l2_post_root_of_abi_bytes journal
  have number := l2_block_number_of_abi_bytes journal
  have config := rollup_config_hash_of_abi_bytes journal
  have program := program_id_of_abi_bytes journal
  simp only [l1HeadOf, l2PreRootOf, l2PostRootOf, l2BlockNumberOf, l2BlockWordOf, rollupConfigHashOf, programIdOf]
    at l1Head preRoot postRoot number config program
  rw [l1Head, preRoot, postRoot, number, config, program]

end OpenZk
