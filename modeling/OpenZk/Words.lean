import Mathlib.Algebra.Ring.Nat
import Mathlib.Data.List.Induction

set_option autoImplicit false

namespace Words

abbrev Bytes := List UInt8

abbrev Address := BitVec 160

def bigEndian (bytes : Bytes) : Nat := bytes.foldl (fun total byte => total * 256 + byte.toNat) 0

def toBigEndian : Nat → Nat → Bytes
  | 0, _ => []
  | width + 1, number => toBigEndian width (number / 256) ++ [UInt8.ofNat number]

def littleEndian (bytes : Bytes) : Nat := bigEndian bytes.reverse

def toLittleEndian (width number : Nat) : Bytes := (toBigEndian width number).reverse

def slice (bytes : Bytes) (start stop : Nat) : Bytes := (bytes.take stop).drop start

structure Bytes32 where
  data : Bytes
  size : data.length = 32
deriving DecidableEq

/-- Conversion of a byte slice to a word: a longer slice is cut, a shorter one is padded with zeros on the right. -/
def pack (bytes : Bytes) : Bytes32 := ⟨(bytes ++ List.replicate 32 0).take 32, by simp⟩

def zeroWord : Bytes32 := ⟨List.replicate 32 0, by simp⟩

theorem big_endian_append (front : Bytes) (byte : UInt8) :
    bigEndian (front ++ [byte]) = bigEndian front * 256 + byte.toNat := by
  simp [bigEndian]

theorem to_big_endian_length (width number : Nat) : (toBigEndian width number).length = width := by
  induction width generalizing number with
  | zero => rfl
  | succ width ih => simp [toBigEndian, ih]

theorem big_endian_to_big_endian (width number : Nat) :
    bigEndian (toBigEndian width number) = number % 256 ^ width := by
  induction width generalizing number with
  | zero => simp [toBigEndian, bigEndian, Nat.mod_one]
  | succ width ih =>
      have low : (UInt8.ofNat number).toNat = number % 256 := by simp
      rw [toBigEndian, big_endian_append, ih, low, Nat.pow_succ', Nat.mod_mul]
      omega

theorem big_endian_lt (bytes : Bytes) : bigEndian bytes < 256 ^ bytes.length := by
  induction bytes using List.reverseRecOn with
  | nil => decide
  | append_singleton front byte ih =>
      have low : byte.toNat < 256 := byte.toNat_lt
      rw [big_endian_append, List.length_append, List.length_singleton, Nat.pow_succ]
      omega

theorem to_big_endian_big_endian (bytes : Bytes) : toBigEndian bytes.length (bigEndian bytes) = bytes := by
  induction bytes using List.reverseRecOn with
  | nil => rfl
  | append_singleton front byte ih =>
      have low : byte.toNat < 256 := byte.toNat_lt
      have high : (bigEndian front * 256 + byte.toNat) / 256 = bigEndian front := by omega
      have last : UInt8.ofNat (bigEndian front * 256 + byte.toNat) = byte := by
        apply UInt8.toNat_inj.mp
        rw [UInt8.toNat_ofNat']
        omega
      rw [big_endian_append, List.length_append, List.length_singleton, toBigEndian, high, ih, last]

theorem big_endian_inj (a b : Bytes) (lengths : a.length = b.length) (same : bigEndian a = bigEndian b) : a = b := by
  rw [← to_big_endian_big_endian a, ← to_big_endian_big_endian b, lengths, same]

theorem to_little_endian_length (width number : Nat) : (toLittleEndian width number).length = width := by
  rw [toLittleEndian, List.length_reverse, to_big_endian_length]

theorem little_endian_to_little_endian (width number : Nat) :
    littleEndian (toLittleEndian width number) = number % 256 ^ width := by
  rw [littleEndian, toLittleEndian, List.reverse_reverse, big_endian_to_big_endian]

theorem little_endian_lt (bytes : Bytes) : littleEndian bytes < 256 ^ bytes.length := by
  rw [littleEndian, ← List.length_reverse]
  exact big_endian_lt bytes.reverse

theorem to_little_endian_little_endian (bytes : Bytes) : toLittleEndian bytes.length (littleEndian bytes) = bytes := by
  rw [littleEndian, toLittleEndian, ← List.length_reverse, to_big_endian_big_endian, List.reverse_reverse]

theorem to_big_endian_cons (width number : Nat) :
    toBigEndian (width + 1) number = UInt8.ofNat (number / 256 ^ width) :: toBigEndian width number := by
  induction width generalizing number with
  | zero => simp [toBigEndian]
  | succ width ih =>
      have quotient : number / 256 / 256 ^ width = number / 256 ^ (width + 1) := by
        rw [Nat.div_div_eq_div_mul, Nat.pow_succ']
      rw [toBigEndian, ih, quotient, List.cons_append]
      rfl

theorem to_big_endian_split (high low number : Nat) :
    toBigEndian (high + low) number = toBigEndian high (number / 256 ^ low) ++ toBigEndian low number := by
  induction low generalizing number with
  | zero => simp [toBigEndian]
  | succ low ih =>
      have quotient : number / 256 / 256 ^ low = number / 256 ^ (low + 1) := by
        rw [Nat.div_div_eq_div_mul, Nat.pow_succ']
      rw [← Nat.add_assoc, toBigEndian, toBigEndian, ih, quotient, List.append_assoc]

def wordOfNat (number : Nat) : Bytes32 := ⟨toBigEndian 32 number, to_big_endian_length 32 number⟩

theorem word_of_nat_data (number : Nat) : (wordOfNat number).data = toBigEndian 32 number := rfl

def wordToNat (word : Bytes32) : Nat := bigEndian word.data

def wordToUInt64 (word : Bytes32) : UInt64 := UInt64.ofNat (wordToNat word)

theorem word_ext (a b : Bytes32) (same : a.data = b.data) : a = b := by
  cases a
  cases b
  simpa using same

theorem word_to_nat_of_nat (number : Nat) (bound : number < 256 ^ 32) :
    wordToNat (wordOfNat number) = number := by
  rw [wordToNat, wordOfNat, big_endian_to_big_endian, Nat.mod_eq_of_lt bound]

theorem word_of_nat_inj (a b : Nat) (aBound : a < 256 ^ 32) (bBound : b < 256 ^ 32)
    (same : wordOfNat a = wordOfNat b) : a = b := by
  rw [← word_to_nat_of_nat a aBound, ← word_to_nat_of_nat b bBound, same]

theorem word_of_nat_ne_zero (number : Nat) (positive : 0 < number) (bound : number < 256 ^ 32) :
    wordOfNat number ≠ zeroWord := by
  intro same
  have zero : zeroWord = wordOfNat 0 := by decide
  have equal := word_of_nat_inj number 0 bound (by decide) (same.trans zero)
  omega

theorem uint64_succ_lt (number : UInt64) (width : Nat) (wide : 9 ≤ width) : number.toNat + 1 < 256 ^ width := by
  have bound := number.toNat_lt
  calc number.toNat + 1 < 256 ^ 9 := by omega
    _ ≤ 256 ^ width := Nat.pow_le_pow_right (by omega) wide

theorem word_uint64 (number : UInt64) : wordToUInt64 (wordOfNat number.toNat) = number := by
  have bound : number.toNat < 256 ^ 32 := Nat.lt_of_succ_lt (uint64_succ_lt number 32 (by omega))
  rw [wordToUInt64, word_to_nat_of_nat number.toNat bound]
  exact UInt64.ofNat_toNat

theorem word_uint64_low (word : Bytes32) : (wordToUInt64 word).toNat = wordToNat word % 2 ^ 64 := by
  simp [wordToUInt64]

theorem pack_word (word : Bytes32) : pack word.data = word := by
  apply word_ext
  simp [pack, word.size]

theorem slice_length (bytes : Bytes) (start stop : Nat) (within : stop ≤ bytes.length) :
    (slice bytes start stop).length = stop - start := by
  rw [slice, List.length_drop, List.length_take_of_le within]

theorem pack_slice (bytes : Bytes) (start stop : Nat) (width : start + 32 = stop) (within : stop ≤ bytes.length) :
    (pack (slice bytes start stop)).data = slice bytes start stop := by
  have size : (slice bytes start stop).length = 32 := by
    rw [slice_length bytes start stop within]
    omega
  change (slice bytes start stop ++ List.replicate 32 0).take 32 = slice bytes start stop
  rw [List.take_append_of_le_length (Nat.le_of_eq size.symm), List.take_of_length_le (Nat.le_of_eq size)]

theorem slice_middle (front middle back : Bytes) (start stop : Nat)
    (starts : front.length = start) (stops : start + middle.length = stop) :
    slice (front ++ (middle ++ back)) start stop = middle := by
  subst starts stops
  simp [slice, List.take_append]

end Words
