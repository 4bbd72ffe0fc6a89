import OpenZk.Words
import Mathlib.Data.Finmap
import Mathlib.Logic.Equiv.Multiset

set_option autoImplicit false

namespace OpenZk

open Words

inductive PreimageKeyType where
  | local
  | keccak256
  | globalGeneric
  | sha256
  | blob
  | precompile
deriving DecidableEq

def PreimageKeyType.byte : PreimageKeyType → UInt8
  | .local => 1
  | .keccak256 => 2
  | .globalGeneric => 3
  | .sha256 => 4
  | .blob => 5
  | .precompile => 6

structure PreimageKey where
  keyType : PreimageKeyType
  data : Bytes
  size : data.length = 31
deriving DecidableEq

def PreimageKey.new (word : Bytes32) (keyType : PreimageKeyType) : PreimageKey :=
  ⟨keyType, word.data.drop 1, by simp [word.size]⟩

def PreimageKey.newLocal (index : UInt64) : PreimageKey := PreimageKey.new (wordOfNat index.toNat) .local

def PreimageKey.toBytes (key : PreimageKey) : Bytes32 := ⟨key.keyType.byte :: key.data, by simp [key.size]⟩

abbrev PreimageMap := Finmap (fun _ : Bytes32 => Bytes)

inductive PreimageOracleError where
  | keyNotFound
  | bufferLengthMismatch (valueLength bufferLength : Nat)
deriving DecidableEq

structure PreimageStore where
  data : PreimageMap

namespace PreimageStore

/-- The archive check and the deserialization are rkyv's; decode is the two of them in a row. -/
def fromRkyvBytes (decode : Bytes → Option PreimageMap) (raw : Bytes) : Option PreimageStore :=
  (decode raw).map PreimageStore.mk

def len (store : PreimageStore) : Nat := store.data.keys.card

def isEmpty (store : PreimageStore) : Bool := store.len = 0

def get (store : PreimageStore) (key : PreimageKey) : Except PreimageOracleError Bytes :=
  match store.data.lookup key.toBytes with
  | some value => .ok value
  | none => .error .keyNotFound

def getExact (store : PreimageStore) (key : PreimageKey) (buf : Bytes) : Except PreimageOracleError Bytes :=
  match store.get key with
  | .error reason => .error reason
  | .ok value =>
      if buf.length ≠ value.length then .error (.bufferLengthMismatch value.length buf.length) else .ok value

def HashesTo (keccak256 : Bytes → Bytes32) (key value : Bytes) : Prop :=
  key.drop 1 = (keccak256 value).data.drop 1

instance (keccak256 : Bytes → Bytes32) (key value : Bytes) : Decidable (HashesTo keccak256 key value) :=
  inferInstanceAs (Decidable (_ = _))

def AuthenticReads (keccak256 : Bytes → Bytes32) (store : PreimageStore) : Prop :=
  ∀ key value, key.keyType = .keccak256 →
    (store.get key = .ok value ∨ ∃ buf, store.getExact key buf = .ok value) →
    HashesTo keccak256 key.toBytes.data value

def AuthenticEntries (keccak256 : Bytes → Bytes32) (data : PreimageMap) : Prop :=
  ∀ word value, word.data.head? = some PreimageKeyType.keccak256.byte → data.lookup word = some value →
    HashesTo keccak256 word.data value

theorem key_bytes_inj (a b : PreimageKey) (same : a.toBytes = b.toBytes) : a = b := by
  obtain ⟨aType, aData, aSize⟩ := a
  obtain ⟨bType, bData, bSize⟩ := b
  have bytes := congrArg Bytes32.data same
  simp only [PreimageKey.toBytes, List.cons.injEq] at bytes
  obtain ⟨types, rfl⟩ := bytes
  cases aType <;> cases bType <;> first | rfl | exact absurd types (by decide)

theorem key_of_word (word : Bytes32) (keyType : PreimageKeyType) (head : word.data.head? = some keyType.byte) :
    (PreimageKey.new word keyType).toBytes = word := by
  apply word_ext
  obtain ⟨data, size⟩ := word
  cases data with
  | nil => cases head
  | cons first rest =>
      rw [List.head?_cons, Option.some.injEq] at head
      subst head
      rfl

theorem key_types_differ (a b : PreimageKey) (different : a.keyType ≠ b.keyType) : a.toBytes ≠ b.toBytes :=
  fun same => different (congrArg PreimageKey.keyType (key_bytes_inj a b same))

theorem new_data (word : Bytes32) (keyType : PreimageKeyType) :
    (PreimageKey.new word keyType).data = word.data.drop 1 := rfl

theorem new_of_nat_data (number : Nat) (keyType : PreimageKeyType) :
    (PreimageKey.new (wordOfNat number) keyType).data = toBigEndian 31 number := by
  rw [new_data, word_of_nat_data, to_big_endian_cons, List.drop_one, List.tail_cons]

theorem new_of_nat_inj (a b : Nat) (keyType : PreimageKeyType) (aBound : a < 256 ^ 31) (bBound : b < 256 ^ 31)
    (same : PreimageKey.new (wordOfNat a) keyType = PreimageKey.new (wordOfNat b) keyType) : a = b := by
  have data := congrArg PreimageKey.data same
  rw [new_of_nat_data, new_of_nat_data] at data
  have numbers := congrArg bigEndian data
  rwa [big_endian_to_big_endian, big_endian_to_big_endian, Nat.mod_eq_of_lt aBound, Nat.mod_eq_of_lt bBound] at numbers

theorem new_local_inj (a b : UInt64) (same : (PreimageKey.newLocal a).toBytes = (PreimageKey.newLocal b).toBytes) :
    a = b := by
  have bound : ∀ index : UInt64, index.toNat < 256 ^ 31 := fun index =>
    Nat.lt_of_succ_lt (uint64_succ_lt index 31 (by omega))
  exact UInt64.toNat_inj.mp (new_of_nat_inj _ _ .local (bound a) (bound b) (key_bytes_inj _ _ same))

theorem get_ok_iff (store : PreimageStore) (key : PreimageKey) (value : Bytes) :
    store.get key = .ok value ↔ store.data.lookup key.toBytes = some value := by
  rw [get]
  cases store.data.lookup key.toBytes with
  | none => simp
  | some found => simp

theorem get_missing_iff (store : PreimageStore) (key : PreimageKey) :
    store.get key = .error .keyNotFound ↔ store.data.lookup key.toBytes = none := by
  rw [get]
  cases store.data.lookup key.toBytes with
  | none => simp
  | some found => simp

theorem get_exact_ok_iff (store : PreimageStore) (key : PreimageKey) (buf value : Bytes) :
    store.getExact key buf = .ok value ↔ store.get key = .ok value ∧ buf.length = value.length := by
  rw [getExact]
  cases store.get key with
  | error reason => simp
  | ok found =>
      by_cases same : buf.length = found.length
      · simp only [same, ne_eq, not_true_eq_false, if_false, Except.ok.injEq]
        constructor
        · intro equal
          subst equal
          exact ⟨rfl, rfl⟩
        · exact fun both => both.1
      · simp only [ne_eq, same, not_false_eq_true, if_true, reduceCtorEq, Except.ok.injEq, false_iff, not_and]
        intro equal
        subst equal
        exact same

theorem authentic_reads_iff (keccak256 : Bytes → Bytes32) (store : PreimageStore) :
    AuthenticReads keccak256 store ↔ AuthenticEntries keccak256 store.data := by
  constructor
  · intro reads word value head held
    have key := key_of_word word .keccak256 head
    have read : store.get (PreimageKey.new word .keccak256) = .ok value := by
      rw [get_ok_iff, key]
      exact held
    simpa only [key] using reads _ value rfl (.inl read)
  · intro entries key value keyType read
    have held : store.data.lookup key.toBytes = some value := by
      rcases read with direct | ⟨buf, exact_read⟩
      · exact (get_ok_iff store key value).mp direct
      · exact (get_ok_iff store key value).mp ((get_exact_ok_iff store key buf value).mp exact_read).1
    apply entries key.toBytes value _ held
    rw [PreimageKey.toBytes, keyType]
    rfl

/-- The store serves the accepted archive as it is: no hash is computed on the way, so the reads are
as authentic as the archive's own entries. -/
theorem store_serves_archive (keccak256 : Bytes → Bytes32) (decode : Bytes → Option PreimageMap) (raw : Bytes)
    (store : PreimageStore) (accepted : fromRkyvBytes decode raw = some store) :
    ∃ data, decode raw = some data ∧
      (∀ key value, store.get key = .ok value ↔ data.lookup key.toBytes = some value) ∧
      (∀ key, store.get key = .error .keyNotFound ↔ data.lookup key.toBytes = none) ∧
      (∀ key buf value, store.getExact key buf = .ok value ↔
        data.lookup key.toBytes = some value ∧ buf.length = value.length) ∧
      (AuthenticReads keccak256 store ↔ AuthenticEntries keccak256 data) := by
  obtain ⟨data, decoded, rfl⟩ := Option.map_eq_some_iff.mp accepted
  refine ⟨data, decoded, get_ok_iff _, get_missing_iff _, ?_, authentic_reads_iff keccak256 _⟩
  intro key buf value
  rw [get_exact_ok_iff, get_ok_iff]

instance : Encodable UInt8 := Encodable.ofLeftInverse UInt8.toNat UInt8.ofNat (fun byte => by simp)

instance : Encodable Bytes32 :=
  Encodable.ofLeftInjection Bytes32.data (fun bytes => if size : bytes.length = 32 then some ⟨bytes, size⟩ else none)
    (fun word => dif_pos word.size)

instance (entries : Multiset (Sigma fun _ : Bytes32 => Bytes)) : Decidable entries.NodupKeys :=
  decidable_of_iff entries.keys.Nodup Multiset.nodup_keys

def archive (data : PreimageMap) : Bytes := List.replicate (Encodable.encode data.entries) 0

def unarchive (raw : Bytes) : Option PreimageMap :=
  (Encodable.decode raw.length : Option (Multiset (Sigma fun _ : Bytes32 => Bytes))).bind fun entries =>
  if distinct : entries.NodupKeys then some ⟨entries, distinct⟩ else none

theorem unarchive_archive (data : PreimageMap) : unarchive (archive data) = some data := by
  rw [unarchive, archive, List.length_replicate, Encodable.encodek, Option.bind_some]
  exact dif_pos data.nodupKeys

theorem archive_accepted (data : PreimageMap) : fromRkyvBytes unarchive (archive data) = some ⟨data⟩ := by
  rw [fromRkyvBytes, unarchive_archive, Option.map_some]

def emptyDigest : Bytes32 :=
  wordOfNat 0xc5d2460186f7233c927e7db2dcc703c0e500b653ca82273b7bfad8045d85a470

def sampleKeccak256 (bytes : Bytes) : Bytes32 := if bytes = [] then emptyDigest else zeroWord

def emptyPreimageUnder (word : Bytes32) : PreimageMap :=
  Finmap.singleton (PreimageKey.new word .keccak256).toBytes []

theorem store_serves_archive_sample :
    ∃ data, unarchive (archive (emptyPreimageUnder emptyDigest)) = some data ∧
      (∀ key value, (PreimageStore.mk (emptyPreimageUnder emptyDigest)).get key = .ok value ↔
        data.lookup key.toBytes = some value) :=
  have served := store_serves_archive sampleKeccak256 unarchive (archive (emptyPreimageUnder emptyDigest))
    ⟨emptyPreimageUnder emptyDigest⟩ (archive_accepted _)
  ⟨served.choose, served.choose_spec.1, served.choose_spec.2.1⟩

theorem unhashed_entry_served :
    ∃ store, fromRkyvBytes unarchive (archive (emptyPreimageUnder zeroWord)) = some store ∧
      store.get (PreimageKey.new zeroWord .keccak256) = .ok [] ∧ ¬ AuthenticReads sampleKeccak256 store := by
  have read : (PreimageStore.mk (emptyPreimageUnder zeroWord)).get (PreimageKey.new zeroWord .keccak256) = .ok [] := by
    rw [get_ok_iff]
    exact Finmap.lookup_singleton_eq
  refine ⟨_, archive_accepted _, read, ?_⟩
  intro authentic
  have hashed := authentic _ [] rfl (.inl read)
  exact absurd hashed (by decide)

end PreimageStore

end OpenZk
